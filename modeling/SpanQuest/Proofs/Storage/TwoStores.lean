/-
  Two stores in one file.

  Each of them reads the file when it is first used, and from then on knows
  nothing of what the other writes; whoever writes, writes the whole mapping.
  So the file is what the store that wrote last had in memory: what the other
  did before that store was first used, and what it did itself since.

  * `Account`: what the two stores and the file hold, told from the operations
    done so far;
  * `Account.step`, `Account.run`: one operation keeps the account, and so do
    all;
  * `get_after_run`: what a third store reads.
-/
import SpanQuest.Proofs.Storage.Operation

namespace SpanQuest

/-! ## The last operation on a key -/

namespace StoreOp

/-- The operation sets the key or drops it. -/
def changes (key : String) : StoreOp → Bool
  | get _ => false
  | set other _ => other == key
  | delete other => other == key

/-- What the operation leaves under its key. -/
def leaves : StoreOp → Option Json
  | get _ => none
  | set _ value => some (.text value)
  | delete _ => none

/-- What the last set or delete of a key leaves, or what it had before all. -/
def latest (key : String) (before : Option Json) (ops : List StoreOp) : Option Json :=
  match (ops.filter (changes key)).getLast? with
  | some op => op.leaves
  | none => before

theorem get?_applyTo {data : Mapping Json} (h : Tidy data) (op : StoreOp) (key : String) :
    Mapping.get? key (op.applyTo data) =
      if op.changes key then op.leaves else Mapping.get? key data := by
  cases op with
  | get other => rfl
  | set other value =>
    by_cases heq : other = key
    · simp [applyTo, changes, leaves, heq]
    · simp [applyTo, changes, heq, Mapping.get?_put_of_ne (Ne.symm heq)]
  | delete other =>
    by_cases heq : other = key
    · simp [applyTo, changes, leaves, heq, Mapping.get?_erase_self key h.distinct]
    · simp [applyTo, changes, heq, Mapping.get?_erase_of_ne (Ne.symm heq)]

/-- **The value of a key is what the last set or delete of it left.** -/
theorem get?_applyAll {data : Mapping Json} (h : Tidy data) (ops : List StoreOp) (key : String) :
    Mapping.get? key (applyAll ops data) = latest key (Mapping.get? key data) ops := by
  induction ops generalizing data with
  | nil => rfl
  | cons op ops ih =>
    rw [show applyAll (op :: ops) data = applyAll ops (op.applyTo data) from rfl,
      ih (tidy_applyTo h op), get?_applyTo h]
    unfold latest
    cases hop : op.changes key with
    | false => simp [hop]
    | true =>
      rw [List.filter_cons_of_pos hop, List.getLast?_cons]
      cases (ops.filter (changes key)).getLast? <;> simp

theorem applyAll_append (front back : List StoreOp) (data : Mapping Json) :
    applyAll (front ++ back) data = applyAll back (applyAll front data) :=
  List.foldl_append

end StoreOp

/-! ## Two stores -/

/-- One of two stores. -/
inductive Side where
  | left
  | right
  deriving DecidableEq, Repr

theorem Side.eq_of_ne {i j k : Side} (hj : j ≠ i) (hk : k ≠ i) : j = k := by
  cases i <;> cases j <;> cases k <;> first | rfl | contradiction

/-- Two stores on one disk. -/
structure TwoStores where
  store : Side → Store
  disk : Disk

/-- An operation that was done: by whom, whether it came to an answer, and
    whether it wrote the file. -/
structure Done where
  who : Side
  op : StoreOp
  made : Bool
  wrote : Bool
  deriving DecidableEq, Repr

namespace TwoStores

/-- Two stores in one file that were not used yet. -/
def start (path : Path) (disk : Disk) : TwoStores :=
  ⟨fun _ => .file path none, disk⟩

/-- One of the stores, on the disk of both. -/
def shelf (w : TwoStores) (i : Side) : Shelf :=
  ⟨w.store i, w.disk⟩

/-- The stores after one of them was used. -/
def replace (w : TwoStores) (i : Side) (after : Shelf) : TwoStores where
  store j := if j = i then after.store else w.store j
  disk := after.disk

/-- An operation of one of the stores. -/
def step (w : TwoStores) (i : Side) (op : StoreOp) : Done × TwoStores :=
  let (answer, after) := (w.shelf i).perform op
  (⟨i, op, answer.isOk, answer.isOk && (w.shelf i).data.toOption.any op.writes⟩, w.replace i after)

/-- Operations of the two, one after another. -/
def run (w : TwoStores) : List (Side × StoreOp) → List Done × TwoStores
  | [] => ([], w)
  | (i, op) :: steps =>
    let (done, next) := w.step i op
    let (rest, last) := next.run steps
    (done :: rest, last)

/-- No write fails on the way: each operation of a store that can be read
    succeeds. -/
def NoWriteFails (w : TwoStores) : List (Side × StoreOp) → Prop
  | [] => True
  | (i, op) :: steps =>
    (∀ data f, (w.shelf i).data = .ok data → ((w.shelf i).perform op).1 ≠ .error f) ∧
      (w.step i op).2.NoWriteFails steps

/-! ## What one operation does -/

section Step

variable {w : TwoStores} {i : Side} {op : StoreOp} {path : Path} {cache : Option (Mapping Json)}
  {data : Mapping Json}

theorem step_unreadable (hs : w.store i = .file path cache) {f : Fault}
    (hdata : (w.shelf i).data = .error f) :
    w.step i op = (⟨i, op, false, false⟩, w.replace i ⟨.file path (some []), w.disk⟩) := by
  unfold step
  rw [Shelf.perform_unreadable (s := w.shelf i) hs hdata, hdata]
  rfl

theorem step_unwritten (hs : w.store i = .file path cache) (hdata : (w.shelf i).data = .ok data)
    (hop : op.writes data = false) :
    w.step i op = (⟨i, op, true, false⟩, w.replace i ⟨.file path (some data), w.disk⟩) := by
  unfold step
  rw [Shelf.perform_unwritten (s := w.shelf i) hs hdata hop, hdata]
  simp [Except.isOk, Except.toBool, Except.toOption, hop]
  rfl

/-- A write that succeeds leaves the same mapping in the store and in the file. -/
theorem step_written (hs : w.store i = .file path cache) (hdata : (w.shelf i).data = .ok data)
    (htidy : Tidy data) (hop : op.writes data = true)
    (hok : ∀ f, ((w.shelf i).perform op).1 ≠ .error f) :
    ∃ disk, Shelf.stored disk path = .ok (op.applyTo data) ∧
      w.step i op = (⟨i, op, true, true⟩, w.replace i ⟨.file path (some (op.applyTo data)), disk⟩) := by
  obtain ⟨hanswer, -, hfiled⟩ := Shelf.stored_perform (s := w.shelf i) hs hdata htidy hop hok
  have hwritten := Shelf.perform_written (s := w.shelf i) hs hdata htidy hop
  refine ⟨_, hfiled, ?_⟩
  unfold step
  simp only [hanswer, hdata]
  rw [hwritten]
  simp [Except.isOk, Except.toBool, Except.toOption, hop]

end Step

/-! ## What a store knows -/

/-- The store was used. -/
def used (i : Side) (t : List Done) : Bool :=
  t.any (·.who == i)

/-- **What a store knows of**: all that was done before its first use, and what
    it did itself from then on. -/
def known (i : Side) : List Done → List Done
  | [] => []
  | d :: t => if d.who = i then (d :: t).filter (·.who == i) else d :: known i t

/-- The store that wrote the file last. -/
def lastWriter (t : List Done) : Option Side :=
  (t.filter (·.wrote)).getLast?.map (·.who)

/-- The operations that came to an answer. -/
def madeOps (t : List Done) : List StoreOp :=
  (t.filter (·.made)).map (·.op)

variable {i j : Side} {t : List Done} {d : Done}

theorem used_snoc : used i (t ++ [d]) = (used i t || d.who == i) := by
  simp [used]

theorem known_snoc : known i (t ++ [d]) =
    if d.who = i ∨ used i t = false then known i t ++ [d] else known i t := by
  induction t with
  | nil =>
    by_cases hd : d.who = i <;> simp [known, used, hd]
  | cons e t ih =>
    by_cases he : e.who = i
    · by_cases hd : d.who = i <;> simp [known, used, he, hd]
    · have hused : used i (e :: t) = used i t := by simp [used, he]
      rw [List.cons_append, known, if_neg he, ih, known, if_neg he, hused]
      split <;> rfl

theorem lastWriter_snoc : lastWriter (t ++ [d]) = if d.wrote then some d.who else lastWriter t := by
  cases hd : d.wrote <;> simp [lastWriter, hd]

theorem madeOps_snoc : madeOps (t ++ [d]) = if d.made then madeOps t ++ [d.op] else madeOps t := by
  cases hd : d.made <;> simp [madeOps, hd]

theorem used_of_lastWriter (h : lastWriter t = some i) : used i t = true := by
  obtain ⟨e, he, rfl⟩ := Option.map_eq_some_iff.1 h
  have hmem := List.mem_of_mem_getLast? he
  exact List.any_eq_true.2 ⟨e, (List.mem_filter.1 hmem).1, by simp⟩

theorem known_of_unused (h : used i t = false) : known j t = t := by
  have hne : ∀ d ∈ t, d.who ≠ i := by simpa [used] using h
  clear h
  induction t with
  | nil => rfl
  | cons e t ih =>
    by_cases he : e.who = j
    · have hall : ∀ d ∈ e :: t, (d.who == j) = true := fun d hd =>
        beq_iff_eq.2 (Side.eq_of_ne (hne d hd) (he ▸ hne e (List.mem_cons_self ..)))
      rw [known, if_pos he, List.filter_eq_self.2 hall]
    · rw [known, if_neg he, ih fun d hd => hne d (List.mem_cons_of_mem _ hd)]

/-! ## What the stores and the file hold -/

/-- The mapping that the first use of a store leaves it with. -/
def loaded (path : Path) (disk : Disk) : Mapping Json :=
  (Shelf.stored disk path).toOption.getD []

/-- The mapping that a store should hold by what it knows. -/
def view (path : Path) (disk : Disk) (i : Side) (t : List Done) : Mapping Json :=
  StoreOp.applyAll (madeOps (known i t)) (loaded path disk)

/-- **The account of two stores in one file**, after what was done: each that was
    used has its view in memory, and the file holds the view of the one that
    wrote it last. -/
structure Account (path : Path) (disk : Disk) (t : List Done) (w : TwoStores) : Prop where
  fresh : ∀ i, used i t = false → w.store i = .file path none
  cached : ∀ i, used i t = true → w.store i = .file path (some (view path disk i t))
  filed : ∀ i, lastWriter t = some i → Shelf.stored w.disk path = .ok (view path disk i t)
  unwritten : lastWriter t = none → w.disk = disk ∧ ∀ i, view path disk i t = loaded path disk

variable {path : Path} {disk : Disk} {w : TwoStores} {op : StoreOp}

theorem tidy_loaded (path : Path) (disk : Disk) : Tidy (loaded path disk) := by
  unfold loaded
  cases h : Shelf.stored disk path with
  | error f => exact Tidy.nil
  | ok data => exact Shelf.tidy_stored h

theorem tidy_view (path : Path) (disk : Disk) (i : Side) (t : List Done) :
    Tidy (view path disk i t) :=
  StoreOp.tidy_applyAll (tidy_loaded path disk) _

theorem view_snoc_known (h : d.who = i ∨ used i t = false) :
    view path disk i (t ++ [d]) =
      if d.made then d.op.applyTo (view path disk i t) else view path disk i t := by
  unfold view
  rw [known_snoc, if_pos h, madeOps_snoc]
  split
  · exact StoreOp.applyAll_append _ _ _
  · rfl

theorem view_snoc_unknown (h : d.who ≠ i) (hused : used i t = true) :
    view path disk i (t ++ [d]) = view path disk i t := by
  unfold view
  rw [known_snoc, if_neg (by simp [h, hused])]

theorem account_start (path : Path) (disk : Disk) : Account path disk [] (start path disk) where
  fresh _ _ := rfl
  cached _ h := by cases h
  filed _ h := by cases h
  unwritten _ := ⟨rfl, fun _ => rfl⟩

namespace Account

/-- A store has its view before its eyes, or it cannot read the file; then
    nothing was written yet, and its view is empty. -/
theorem data_shelf (h : Account path disk t w) (i : Side) :
    (w.shelf i).data = .ok (view path disk i t) ∨
      ∃ f, (w.shelf i).data = .error f ∧ lastWriter t = none ∧ loaded path disk = [] := by
  cases hused : used i t with
  | true =>
    refine Or.inl ?_
    simp only [shelf, Shelf.data, h.cached i hused]
  | false =>
    have hdata : (w.shelf i).data = Shelf.stored w.disk path := by
      simp only [shelf, Shelf.data, h.fresh i hused]
    cases hlast : lastWriter t with
    | some j =>
      refine Or.inl ?_
      rw [hdata, h.filed j hlast]
      simp only [view, known_of_unused hused]
    | none =>
      obtain ⟨hdisk, hview⟩ := h.unwritten hlast
      rw [hdata, hdisk, hview]
      cases hstored : Shelf.stored disk path with
      | ok data => exact Or.inl (by simp [loaded, hstored, Except.toOption])
      | error f => exact Or.inr ⟨f, rfl, rfl, by simp [loaded, hstored, Except.toOption]⟩

theorem store_eq (h : Account path disk t w) (i : Side) : ∃ cache, w.store i = .file path cache := by
  cases hused : used i t with
  | true => exact ⟨_, h.cached i hused⟩
  | false => exact ⟨_, h.fresh i hused⟩

/-- What an operation of one store has to leave, to keep the account. -/
structure Extends (path : Path) (disk : Disk) (t : List Done) (w : TwoStores) (i : Side) (d : Done)
    (next : TwoStores) : Prop where
  who : d.who = i
  own : next.store i = .file path (some (view path disk i (t ++ [d])))
  other : ∀ j, j ≠ i → next.store j = w.store j
  written : d.wrote = true → Shelf.stored next.disk path = .ok (view path disk i (t ++ [d]))
  unwritten : d.wrote = false → next.disk = w.disk ∧
    view path disk i (t ++ [d]) = view path disk i t

theorem view_snoc_of_unused (hwho : d.who = i) (hj : used j t = false) :
    view path disk j (t ++ [d]) = view path disk i (t ++ [d]) := by
  rw [view_snoc_known (Or.inr hj), view_snoc_known (Or.inl hwho)]
  simp only [view, known_of_unused hj]

theorem extend (h : Account path disk t w) {next : TwoStores}
    (hext : Extends path disk t w i d next) : Account path disk (t ++ [d]) next where
  fresh j hj := by
    simp only [used_snoc, hext.who, Bool.or_eq_false_iff, beq_eq_false_iff_ne] at hj
    rw [hext.other j (Ne.symm hj.2), h.fresh j hj.1]
  cached j hj := by
    by_cases hji : j = i
    · exact hji ▸ hext.own
    · have hne : d.who ≠ j := hext.who ▸ Ne.symm hji
      have hused : used j t = true := by simpa [used_snoc, hne] using hj
      rw [hext.other j hji, h.cached j hused, view_snoc_unknown hne hused]
  filed j hj := by
    rw [lastWriter_snoc] at hj
    split at hj
    · next hwrote =>
      cases hj
      rw [hext.who]
      exact hext.written hwrote
    · next hwrote =>
      obtain ⟨hdisk, hview⟩ := hext.unwritten (by simpa using hwrote)
      rw [hdisk, h.filed j hj]
      by_cases hji : j = i
      · rw [hji, hview]
      · rw [view_snoc_unknown (hext.who ▸ Ne.symm hji) (used_of_lastWriter hj)]
  unwritten hnone := by
    rw [lastWriter_snoc] at hnone
    split at hnone
    · cases hnone
    · next hwrote =>
      obtain ⟨hdisk, hview⟩ := hext.unwritten (by simpa using hwrote)
      obtain ⟨hdisk', hloaded⟩ := h.unwritten hnone
      refine ⟨hdisk.trans hdisk', fun j => ?_⟩
      by_cases hji : j = i
      · rw [hji, hview, hloaded]
      · cases hj : used j t with
        | true => rw [view_snoc_unknown (hext.who ▸ Ne.symm hji) hj, hloaded]
        | false => rw [view_snoc_of_unused hext.who hj, hview, hloaded]

/-- **One operation keeps the account.** -/
theorem step (h : Account path disk t w) {i : Side}
    (hok : ∀ data f, (w.shelf i).data = .ok data → ((w.shelf i).perform op).1 ≠ .error f) :
    Account path disk (t ++ [(w.step i op).1]) (w.step i op).2 := by
  refine h.extend (i := i) ?_
  obtain ⟨cache, hs⟩ := h.store_eq i
  have hview (made wrote : Bool) : view path disk i (t ++ [⟨i, op, made, wrote⟩]) =
      if made then op.applyTo (view path disk i t) else view path disk i t :=
    view_snoc_known (Or.inl rfl)
  have hother (after : Shelf) (j : Side) (hj : j ≠ i) : (w.replace i after).store j = w.store j :=
    if_neg hj
  rcases h.data_shelf i with hdata | ⟨f, hdata, hlast, hempty⟩
  · cases hop : op.writes (view path disk i t) with
    | false =>
      have hkept := hview true false
      rw [if_pos rfl, StoreOp.applyTo_of_not_writes hop] at hkept
      rw [step_unwritten hs hdata hop]
      exact ⟨rfl, by simp [replace, hkept], hother _, nofun, fun _ => ⟨rfl, hkept⟩⟩
    | true =>
      have hchanged := hview true true
      rw [if_pos rfl] at hchanged
      obtain ⟨last, hfiled, hstep⟩ := step_written hs hdata (tidy_view path disk i t) hop
        fun f => hok _ f hdata
      rw [hstep]
      exact ⟨rfl, by simp [replace, hchanged], hother _, fun _ => by rw [hchanged]; exact hfiled,
        nofun⟩
  · have hkept := hview false false
    rw [if_neg Bool.false_ne_true] at hkept
    have hnil : view path disk i t = [] := ((h.unwritten hlast).2 i).trans hempty
    rw [step_unreadable hs hdata]
    exact ⟨rfl, by simp [replace, hkept, hnil], hother _, nofun, fun _ => ⟨rfl, hkept⟩⟩

/-- **All operations keep the account.** -/
theorem run (h : Account path disk t w) {steps : List (Side × StoreOp)}
    (hok : w.NoWriteFails steps) : Account path disk (t ++ (w.run steps).1) (w.run steps).2 := by
  induction steps generalizing t w with
  | nil => simpa [TwoStores.run] using h
  | cons step steps ih =>
    obtain ⟨i, op⟩ := step
    have hrest := ih (h.step hok.1) hok.2
    rw [List.append_assoc, List.singleton_append] at hrest
    exact hrest

/-- A third store reads what the last operation left that the one that wrote
    last knows of. -/
theorem get_third (h : Account path disk t w) (hlast : lastWriter t = some i) (key : String) :
    ((Shelf.ofFile path w.disk).get key).1 =
      .ok (StoreOp.latest key (Mapping.get? key (loaded path disk)) (madeOps (known i t))) := by
  have hget := Shelf.perform_get (s := Shelf.ofFile path w.disk) (h.filed i hlast) key
  rw [view, StoreOp.get?_applyAll (tidy_loaded path disk)] at hget
  exact hget

end Account

/-- **What a third store reads from a file that two stores have used.**  If
    neither wrote, the file is as it was.  Else the store reads, for every key,
    what the last set or delete of it left, of the operations that the one that
    wrote last knows of: those of both before its first use, and only its own
    from then on. -/
theorem get_after_run (path : Path) (disk : Disk) {steps : List (Side × StoreOp)}
    (hok : (start path disk).NoWriteFails steps) (key : String) :
    ((Shelf.ofFile path ((start path disk).run steps).2.disk).get key).1 =
      match lastWriter ((start path disk).run steps).1 with
      | none => ((Shelf.ofFile path disk).get key).1
      | some i => .ok (StoreOp.latest key (Mapping.get? key (loaded path disk))
          (madeOps (known i ((start path disk).run steps).1))) := by
  have haccount := (account_start path disk).run hok
  rw [List.nil_append] at haccount
  cases hlast : lastWriter ((start path disk).run steps).1 with
  | none => rw [(haccount.unwritten hlast).1]
  | some i => exact haccount.get_third hlast key

/-- A look on one side, a change on the other, and a change of another key on
    the first. -/
def staleWrite : List (Side × StoreOp) :=
  [(.left, .get "first"), (.right, .set "second" "1"), (.left, .set "first" "2")]

theorem noWriteFails_staleWrite :
    (start ⟨false, ["store.json"]⟩ Disk.empty).NoWriteFails staleWrite :=
  ⟨fun _ _ _ => nofun, fun _ _ _ => nofun, fun _ _ _ => nofun, trivial⟩

theorem run_staleWrite : ((start ⟨false, ["store.json"]⟩ Disk.empty).run staleWrite).1 =
    [⟨.left, .get "first", true, false⟩, ⟨.right, .set "second" "1", true, true⟩,
      ⟨.left, .set "first" "2", true, true⟩] :=
  rfl

theorem get_after_run_staleWrite :
    (start ⟨false, ["store.json"]⟩ Disk.empty).NoWriteFails staleWrite ∧
      ((Shelf.ofFile ⟨false, ["store.json"]⟩
        ((start ⟨false, ["store.json"]⟩ Disk.empty).run staleWrite).2.disk).get "first").1 =
          .ok (some (.text "2")) := by
  have hget := get_after_run ⟨false, ["store.json"]⟩ Disk.empty noWriteFails_staleWrite "first"
  rw [run_staleWrite] at hget
  exact ⟨noWriteFails_staleWrite, hget⟩

/-- **An update is lost**: no write failed and the last operation on the second
    key has set it, but a third store does not find it. -/
theorem update_lost :
    (start ⟨false, ["store.json"]⟩ Disk.empty).NoWriteFails staleWrite ∧
      StoreOp.latest "second" (Mapping.get? "second" (loaded ⟨false, ["store.json"]⟩ Disk.empty))
        (madeOps ((start ⟨false, ["store.json"]⟩ Disk.empty).run staleWrite).1) =
          some (.text "1") ∧
      ((Shelf.ofFile ⟨false, ["store.json"]⟩
        ((start ⟨false, ["store.json"]⟩ Disk.empty).run staleWrite).2.disk).get "second").1 =
          .ok none := by
  have haccount := (account_start ⟨false, ["store.json"]⟩ Disk.empty).run noWriteFails_staleWrite
  rw [List.nil_append, run_staleWrite] at haccount
  refine ⟨noWriteFails_staleWrite, ?_, haccount.get_third (i := .left) rfl "second"⟩
  rw [run_staleWrite]
  rfl

end TwoStores

end SpanQuest
