/-
  The operations of a store.

  What an operation does to a shelf is said once: `perform_memory` for a store
  in memory, and for a store in a file `perform_unreadable` where its file
  cannot be read, `perform_unwritten` where there is nothing to write and
  `perform_written` where the file is written as a whole.

  * `data_perform`: an operation does to the mapping of a store what it says,
    also where its write fails;
  * `stored_perform`: a write that succeeds leaves the mapping in the file.
-/
import SpanQuest.Proofs.Storage.Append
import SpanQuest.Proofs.Storage.Disk
import SpanQuest.Proofs.Storage.Encoding

namespace SpanQuest

/-- An operation of a store of texts. -/
inductive StoreOp where
  | get (key : String)
  | set (key value : String)
  | delete (key : String)
  deriving DecidableEq, Repr

namespace StoreOp

/-- What the operation makes of a mapping. -/
def applyTo : StoreOp → Mapping Json → Mapping Json
  | get _, data => data
  | set key value, data => Mapping.put key (.text value) data
  | delete key, data => Mapping.erase key data

/-- What some operations make of a mapping, one after another. -/
def applyAll (ops : List StoreOp) (data : Mapping Json) : Mapping Json :=
  ops.foldl (fun data op => op.applyTo data) data

/-- What the operation answers on a mapping. -/
def answer : StoreOp → Mapping Json → Option Json
  | get key, data => Mapping.get? key data
  | set .., _ => none
  | delete _, _ => none

/-- The operation sets a key, or drops one that is there. -/
def writes : StoreOp → Mapping Json → Bool
  | get _, _ => false
  | set .., _ => true
  | delete key, data => Mapping.has key data

theorem tidy_applyTo {data : Mapping Json} (h : Tidy data) (op : StoreOp) : Tidy (op.applyTo data) := by
  cases op with
  | get key => exact h
  | set key value => exact h.put key value
  | delete key => exact h.erase key

theorem tidy_applyAll {data : Mapping Json} (h : Tidy data) (ops : List StoreOp) :
    Tidy (applyAll ops data) := by
  induction ops generalizing data with
  | nil => exact h
  | cons op ops ih => exact ih (tidy_applyTo h op)

theorem applyTo_of_not_writes {op : StoreOp} {data : Mapping Json} (h : op.writes data = false) :
    op.applyTo data = data := by
  cases op with
  | get key => rfl
  | set key value => cases h
  | delete key =>
    simp only [writes, Mapping.has, Option.isSome_eq_false_iff, Option.isNone_iff_eq_none] at h
    exact Mapping.erase_of_get?_eq_none h

end StoreOp

namespace Shelf

variable {s : Shelf} {path : Path} {cache : Option (Mapping Json)} {data : Mapping Json} {op : StoreOp}

/-- A store that has not read its file yet. -/
def ofFile (path : Path) (disk : Disk) : Shelf :=
  ⟨.file path none, disk⟩

/-- A store in memory. -/
def ofMapping (data : Mapping Json) (disk : Disk) : Shelf :=
  ⟨.memory data, disk⟩

/-- Does an operation: its answer, and the shelf after it. -/
def perform (s : Shelf) : StoreOp → Except Fault (Option Json) × Shelf
  | .get key => s.get key
  | .set key value =>
    let (written, after) := s.set key (.text value)
    (written.map fun _ => none, after)
  | .delete key =>
    let (written, after) := s.delete key
    (written.map fun _ => none, after)

/-! ## What an operation does -/

theorem perform_memory (hs : s.store = .memory data) (op : StoreOp) :
    s.perform op = (.ok (op.answer data), { s with store := .memory (op.applyTo data) }) := by
  have hdata := data_memory hs
  cases op with
  | get key =>
    obtain ⟨store, disk⟩ := s
    subst hs
    rfl
  | set key value => simp only [perform, set_memory hs]; rfl
  | delete key => simp only [perform, delete, hdata, hs, replace]; rfl

theorem perform_get (hdata : s.data = .ok data) (key : String) :
    (s.perform (.get key)).1 = .ok (Mapping.get? key data) := by
  simp only [perform, get, hdata, Except.map]

/-- The first use of a store whose file cannot be read fails, and leaves it empty. -/
theorem perform_unreadable (hs : s.store = .file path cache) {f : Fault} (hdata : s.data = .error f)
    (op : StoreOp) : s.perform op = (.error f, { s with store := .file path (some []) }) := by
  have hnone : cache = none := by
    cases cache with
    | none => rfl
    | some m => simp [Shelf.data, hs] at hdata
  subst hnone
  have hused : s.used = { s with store := .file path (some []) } := by
    obtain ⟨store, disk⟩ := s
    subst hs
    have hstored : stored disk path = .error f := hdata
    simp only [used, hstored]
    rfl
  cases op with
  | get key => simp only [perform, get, hdata, hused]; rfl
  | set key value => simp only [perform, set, hdata, hused]; rfl
  | delete key => simp only [perform, delete, hdata, hused]; rfl

theorem perform_unwritten (hs : s.store = .file path cache) (hdata : s.data = .ok data)
    (hop : op.writes data = false) :
    s.perform op = (.ok (op.answer data), { s with store := .file path (some data) }) := by
  cases op with
  | get key =>
    have hused : s.used = { s with store := .file path (some data) } := by
      obtain ⟨store, disk⟩ := s
      subst hs
      cases cache with
      | none =>
        have hstored : stored disk path = .ok data := hdata
        simp only [used, hstored]
        rfl
      | some m =>
        cases hdata
        rfl
    simp only [perform, get, hdata, hused]
    rfl
  | set key value => cases hop
  | delete key =>
    simp only [StoreOp.writes, Mapping.has, Option.isSome_eq_false_iff,
      Option.isNone_iff_eq_none] at hop
    simp only [perform, delete, hdata, hs, hop]
    rfl

/-- A set, or a delete of a key that is there, changes the mapping and then
    writes it. -/
theorem perform_written (hs : s.store = .file path cache) (hdata : s.data = .ok data)
    (htidy : Tidy data) (hop : op.writes data = true) :
    s.perform op = ((s.disk.write path (encode (op.applyTo data))).1.map fun _ => op.answer data,
      ⟨.file path (some (op.applyTo data)), (s.disk.write path (encode (op.applyTo data))).2⟩) := by
  cases op with
  | get key => cases hop
  | set key value => simp only [perform, set, hdata, replace, hs]; rfl
  | delete key =>
    obtain ⟨v, hv⟩ := Option.isSome_iff_exists.1 hop
    obtain ⟨text, rfl⟩ := htidy.get?_eq_text hv
    simp only [perform, delete, hdata, hs, hv, replace]
    rfl

/-! ## The mapping after an operation -/

/-- **An operation does to the mapping of a store what it says**, also where its
    write fails. -/
theorem data_perform (hdata : s.data = .ok data) (htidy : Tidy data) (op : StoreOp) :
    (s.perform op).2.data = .ok (op.applyTo data) := by
  cases hs : s.store with
  | memory m =>
    obtain rfl : m = data := by simpa [Shelf.data, hs] using hdata
    rw [perform_memory hs]
    rfl
  | file path cache =>
    cases hop : op.writes data with
    | false =>
      rw [perform_unwritten hs hdata hop, StoreOp.applyTo_of_not_writes hop]
      rfl
    | true =>
      rw [perform_written hs hdata htidy hop]
      rfl

/-- The shelf after some operations. -/
def performAll (s : Shelf) (ops : List StoreOp) : Shelf :=
  ops.foldl (fun s op => (s.perform op).2) s

/-- Some operations do to the mapping what they say, whichever writes fail. -/
theorem data_performAll (hdata : s.data = .ok data) (htidy : Tidy data) (ops : List StoreOp) :
    (s.performAll ops).data = .ok (StoreOp.applyAll ops data) := by
  induction ops generalizing s data with
  | nil => exact hdata
  | cons op ops ih => exact ih (data_perform hdata htidy op) (StoreOp.tidy_applyTo htidy op)

/-- **A write that succeeds leaves the mapping in the file**, and answers as in
    memory. -/
theorem stored_perform (hs : s.store = .file path cache) (hdata : s.data = .ok data)
    (htidy : Tidy data) (hop : op.writes data = true) (hok : ∀ f, (s.perform op).1 ≠ .error f) :
    (s.perform op).1 = .ok (op.answer data) ∧
      (s.perform op).2.disk.look path = .ok (some (.file (encode (op.applyTo data)))) ∧
      stored (s.perform op).2.disk path = .ok (op.applyTo data) := by
  rw [perform_written hs hdata htidy hop] at hok ⊢
  rcases hwrite : s.disk.write path (encode (op.applyTo data)) with ⟨written, disk⟩
  rw [hwrite] at hok
  cases written with
  | error f => exact absurd rfl (hok f)
  | ok done =>
    have hlook := Disk.look_of_write hwrite
    refine ⟨rfl, hlook, ?_⟩
    unfold stored
    rw [hlook]
    exact decode_encode (StoreOp.tidy_applyTo htidy op)

end Shelf

end SpanQuest
