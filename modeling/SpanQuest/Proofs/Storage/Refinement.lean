/-
  A store in a file behaves as one in memory.

  While its writes succeed, a store in a file always stands for one mapping:
  the file holds it, and the store has either not read the file or has the same
  mapping in memory.  So it does not matter when a fresh store takes its place.

  * `Mirrors`: the shelf stands for the mapping;
  * `run_mirrors`: so does the shelf after any events, and it answers as a store
    in memory;
  * `run_file_eq_run_memory`: from the first use on, a store in a file answers
    as one in memory, and after each change its file holds the mapping.
-/
import SpanQuest.Proofs.Storage.Operation

namespace SpanQuest

/-- What happens to a store: an operation, or that a fresh store takes its place
    on the same file. -/
inductive StoreEvent where
  | operation (op : StoreOp)
  | reopen
  deriving DecidableEq, Repr

namespace Shelf

variable {s : Shelf} {path : Path} {data : Mapping Json} {disk : Disk}

/-- Lets events happen: the answers to the operations, and the shelf after them. -/
def run (s : Shelf) : List StoreEvent → List (Except Fault (Option Json)) × Shelf
  | [] => ([], s)
  | .operation op :: events =>
    let (answer, next) := s.perform op
    let (answers, last) := next.run events
    (answer :: answers, last)
  | .reopen :: events => s.reopen.run events

/-- No write fails while the events happen: each operation on a store that can
    be read succeeds. -/
def NoWriteFails (s : Shelf) : List StoreEvent → Prop
  | [] => True
  | .operation op :: events =>
    (∀ data f, s.data = .ok data → (s.perform op).1 ≠ .error f) ∧
      (s.perform op).2.NoWriteFails events
  | .reopen :: events => s.reopen.NoWriteFails events

theorem run_append (s : Shelf) (before after : List StoreEvent) :
    s.run (before ++ after) =
      ((s.run before).1 ++ ((s.run before).2.run after).1, ((s.run before).2.run after).2) := by
  induction before generalizing s with
  | nil => rfl
  | cons event before ih =>
    cases event with
    | operation op => simp only [List.cons_append, run, ih]
    | reopen => simp only [List.cons_append, run, ih]

theorem noWriteFails_append {before after : List StoreEvent} :
    s.NoWriteFails (before ++ after) ↔
      s.NoWriteFails before ∧ (s.run before).2.NoWriteFails after := by
  induction before generalizing s with
  | nil => simp [NoWriteFails, run]
  | cons event before ih =>
    cases event with
    | operation op => simp only [List.cons_append, NoWriteFails, run, ih, and_assoc]
    | reopen => simp only [List.cons_append, NoWriteFails, run, ih]

/-! ## What a store in a file stands for -/

/-- **The shelf stands for the mapping**: its file holds the mapping, and so does
    what it has read, if anything. -/
structure Mirrors (path : Path) (data : Mapping Json) (s : Shelf) : Prop where
  cached : s.store = .file path none ∨ s.store = .file path (some data)
  filed : stored s.disk path = .ok data

namespace Mirrors

theorem data_eq (h : Mirrors path data s) : s.data = .ok data := by
  unfold Shelf.data
  rcases h.cached with hs | hs <;> rw [hs]
  exact h.filed

theorem store_eq (h : Mirrors path data s) : ∃ cache, s.store = .file path cache :=
  h.cached.elim (⟨_, ·⟩) (⟨_, ·⟩)

theorem reopen (h : Mirrors path data s) : Mirrors path data s.reopen := by
  have hreopen : s.reopen = ⟨.file path none, s.disk⟩ := by
    rcases h.cached with hs | hs <;> simp only [Shelf.reopen, hs]
  rw [hreopen]
  exact ⟨Or.inl rfl, h.filed⟩

/-- **An operation whose write succeeds answers as in memory**, and the shelf
    stands for the mapping that it makes. -/
theorem perform (h : Mirrors path data s) {op : StoreOp} (hok : ∀ f, (s.perform op).1 ≠ .error f) :
    (s.perform op).1 = .ok (op.answer data) ∧ Mirrors path (op.applyTo data) (s.perform op).2 := by
  have hdata := h.data_eq
  have htidy := tidy_stored h.filed
  obtain ⟨cache, hs⟩ := h.store_eq
  cases hop : op.writes data with
  | false =>
    rw [perform_unwritten hs hdata hop, StoreOp.applyTo_of_not_writes hop]
    exact ⟨rfl, Or.inr rfl, h.filed⟩
  | true =>
    obtain ⟨hanswer, -, hfiled⟩ := stored_perform hs hdata htidy hop hok
    refine ⟨hanswer, Or.inr ?_, hfiled⟩
    rw [perform_written hs hdata htidy hop]

end Mirrors

/-! ## Runs -/

/-- **While no write fails a store in a file answers as one in memory**, and
    stands for the mapping of that one. -/
theorem run_mirrors (h : Mirrors path data s) {events : List StoreEvent}
    (hok : s.NoWriteFails events) (other : Disk) :
    ∃ last, Mirrors path last (s.run events).2 ∧
      (ofMapping data other).run events = ((s.run events).1, ofMapping last other) := by
  induction events generalizing s data with
  | nil => exact ⟨data, h, rfl⟩
  | cons event events ih =>
    cases event with
    | operation op =>
      obtain ⟨hanswer, hnext⟩ := h.perform fun f => hok.1 data f h.data_eq
      obtain ⟨last, hlast, hrun⟩ := ih hnext hok.2
      have hmemory : (ofMapping data other).perform op =
          (.ok (op.answer data), ofMapping (op.applyTo data) other) := perform_memory rfl op
      refine ⟨last, hlast, ?_⟩
      simp only [run, hmemory, hrun, hanswer]
    | reopen =>
      obtain ⟨last, hlast, hrun⟩ := ih h.reopen hok
      exact ⟨last, hlast, hrun⟩

theorem holds_perform (h : Mirrors path data s) {op : StoreOp} (hop : op.writes data = true)
    (hok : ∀ f, (s.perform op).1 ≠ .error f) :
    ∃ bytes, (s.perform op).2.disk.look path = .ok (some (.file bytes)) ∧
      Holds bytes (op.applyTo data) := by
  have htidy := tidy_stored h.filed
  obtain ⟨cache, hs⟩ := h.store_eq
  obtain ⟨-, hlook, -⟩ := stored_perform hs h.data_eq htidy hop hok
  exact ⟨_, hlook, holds_encode (StoreOp.tidy_applyTo htidy op)⟩

/-- **A store in a file refines one in memory.**  Its file may be missing or hold
    anything that can be read as a mapping; from then on, while no write fails
    and wherever a fresh store takes its place, it answers as a store in memory
    that began with that mapping.  After each set, and each delete of a key that
    is there, the bytes of the file are those of one object, which has exactly
    the pairs of the mapping, in their order. -/
theorem run_file_eq_run_memory (hload : stored disk path = .ok data) {events : List StoreEvent}
    (hok : (ofFile path disk).NoWriteFails events) :
    ((ofFile path disk).run events).1 = ((ofMapping data disk).run events).1 ∧
      ∀ before op after, events = before ++ .operation op :: after →
        ∃ current next, ((ofMapping data disk).run before).2.data = .ok current ∧
          ((ofMapping data disk).run (before ++ [.operation op])).2.data = .ok next ∧
          (op.writes current = true →
            ∃ bytes, ((ofFile path disk).run (before ++ [.operation op])).2.disk.look path =
              .ok (some (.file bytes)) ∧ Holds bytes next) := by
  have hstart : Mirrors path data (ofFile path disk) := ⟨Or.inl rfl, hload⟩
  refine ⟨?_, ?_⟩
  · obtain ⟨last, -, hrun⟩ := run_mirrors hstart hok disk
    rw [hrun]
  · rintro before op after rfl
    obtain ⟨hbefore, hop, -⟩ := noWriteFails_append.1 hok
    obtain ⟨current, hcurrent, hrun⟩ := run_mirrors hstart hbefore disk
    refine ⟨current, op.applyTo current, by rw [hrun]; rfl, ?_, fun hwrites => ?_⟩
    · rw [run_append, hrun]
      simp only [run, perform_memory (s := ofMapping current disk) rfl op]
      rfl
    · rw [run_append]
      exact holds_perform hcurrent hwrites fun f => hop current f hcurrent.data_eq

/-- A text with a quote, a line end and a character of another plane, set where
    there was no file, is there for the store that comes next. -/
theorem run_file_eq_run_memory_reopened :
    stored Disk.empty ⟨false, ["store.json"]⟩ = .ok [] ∧
      (ofFile ⟨false, ["store.json"]⟩ Disk.empty).NoWriteFails
        [.operation (.set "key" "\"\n😀"), .reopen, .operation (.get "key")] ∧
      ((ofFile ⟨false, ["store.json"]⟩ Disk.empty).run
        [.operation (.set "key" "\"\n😀"), .reopen, .operation (.get "key")]).1 =
          [.ok none, .ok (some (.text "\"\n😀"))] := by
  -- what the text is makes no difference to whether it can be written
  generalize "\"\n😀" = value
  have hload : stored Disk.empty ⟨false, ["store.json"]⟩ = .ok [] := rfl
  have hok : (ofFile ⟨false, ["store.json"]⟩ Disk.empty).NoWriteFails
      [.operation (.set "key" value), .reopen, .operation (.get "key")] := by
    refine ⟨fun data f _ => ?_, fun data f hdata => ?_, trivial⟩
    · have hset : ((ofFile ⟨false, ["store.json"]⟩ Disk.empty).perform
          (.set "key" value)).1 = .ok none := rfl
      rw [hset]
      nofun
    · rw [perform_get hdata]
      nofun
  exact ⟨hload, hok, (run_file_eq_run_memory hload hok).1⟩

end Shelf

end SpanQuest
