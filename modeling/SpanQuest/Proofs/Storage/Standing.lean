/-
  What a store of either kind stands for.

  A store in memory is its mapping, and a store in a file stands for the mapping
  in it, as long as its writes succeed.  So whoever uses a store need not know
  of which kind it is.

  * `Stands.get`, `Stands.set`, `Stands.delete`, `Stands.reopen`: what a use of
    a store comes to, unless something is in the way.
-/
import SpanQuest.Proofs.Storage.FailedWrite
import SpanQuest.Proofs.Storage.Refinement

namespace SpanQuest

namespace Shelf

variable {s : Shelf} {data : Mapping Json} {op : StoreOp}

/-! ## What a store stands for -/

/-- **The store stands for the mapping**: it is in memory, under distinct keys, or
    in a file that has it. -/
inductive Stands (data : Mapping Json) (s : Shelf) : Prop where
  | memory (hs : s.store = .memory data) (hkeys : (Mapping.keys data).Nodup)
  | file (path : Path) (hs : Mirrors path data s)

/-- The outcome tells of nothing in the way of a path. -/
def Unhindered {α : Type} (r : Except Fault α) : Prop :=
  ∀ f, r = .error f → f.isOfDisk = false

namespace Stands

theorem data_eq (h : Stands data s) : s.data = .ok data := by
  cases h with
  | memory hs => exact data_memory hs
  | file path hs => exact hs.data_eq

theorem nodup (h : Stands data s) : (Mapping.keys data).Nodup := by
  cases h with
  | memory hs hkeys => exact hkeys
  | file path hs => exact (tidy_stored hs.filed).distinct

/-- **With nothing in the way an operation succeeds**, and does to the mapping what
    it says. -/
theorem perform (h : Stands data s) (hok : Unhindered (s.perform op).1) :
    (s.perform op).1 = .ok (op.answer data) ∧ Stands (op.applyTo data) (s.perform op).2 := by
  cases h with
  | memory hs hkeys =>
    rw [perform_memory hs]
    refine ⟨rfl, .memory rfl ?_⟩
    cases op with
    | get key => exact hkeys
    | set key value => exact Mapping.nodup_keys_put key _ hkeys
    | delete key => exact Mapping.nodup_keys_erase key hkeys
  | file path hs =>
    have hdata := hs.data_eq
    have hnofail : ∀ f, (s.perform op).1 ≠ .error f := by
      intro f hfail
      have hnodisk := hok f hfail
      rw [isOfDisk_of_perform hdata (tidy_stored hs.filed) hfail] at hnodisk
      cases hnodisk
    obtain ⟨hanswer, hnext⟩ := hs.perform hnofail
    exact ⟨hanswer, .file path hnext⟩

theorem get (h : Stands data s) (key : String) :
    (s.get key).1 = .ok (Mapping.get? key data) ∧ Stands data (s.get key).2 := by
  have hanswer : (s.get key).1 = .ok (Mapping.get? key data) := perform_get h.data_eq key
  have hok : Unhindered (s.perform (.get key)).1 := by
    intro f hf
    cases hanswer.symm.trans hf
  exact h.perform hok

/-- A set or a delete that is told without its answer. -/
theorem of_change {r : Except Fault Unit} {after : Shelf} (h : Stands data s) (op : StoreOp)
    (hperform : s.perform op = (r.map fun _ => none, after)) (hok : Unhindered r) :
    r = .ok () ∧ Stands (op.applyTo data) after := by
  have hok' : Unhindered (s.perform op).1 := by
    rw [hperform]
    intro f hf
    cases r with
    | error g =>
      cases hf
      exact hok _ rfl
    | ok done => cases hf
  obtain ⟨hanswer, hnext⟩ := h.perform hok'
  rw [hperform] at hanswer hnext
  cases r with
  | error g => cases hanswer
  | ok done => exact ⟨rfl, hnext⟩

theorem set (h : Stands data s) {key value : String}
    (hok : Unhindered (s.set key (.text value)).1) :
    (s.set key (.text value)).1 = .ok () ∧
      Stands (Mapping.put key (.text value) data) (s.set key (.text value)).2 :=
  h.of_change (.set key value) rfl hok

theorem delete (h : Stands data s) (key : String) (hok : Unhindered (s.delete key).1) :
    (s.delete key).1 = .ok () ∧ Stands (Mapping.erase key data) (s.delete key).2 :=
  h.of_change (.delete key) rfl hok

theorem reopen (h : Stands data s) : Stands data s.reopen := by
  cases h with
  | memory hs hkeys =>
    have hsame : s.reopen = s := by
      unfold Shelf.reopen
      rw [hs]
    rw [hsame]
    exact .memory hs hkeys
  | file path hs => exact .file path hs.reopen

end Stands

/-- **A store as it is opened**: a mapping under distinct keys, or a file that was
    not read yet. -/
inductive Opened : Shelf → Prop where
  | memory (data : Mapping Json) (disk : Disk) (hkeys : (Mapping.keys data).Nodup) :
      Opened (ofMapping data disk)
  | file (path : Path) (disk : Disk) : Opened (ofFile path disk)

theorem Opened.stands (h : Opened s) (hdata : s.data = .ok data) : Stands data s := by
  cases h with
  | memory held disk hkeys =>
    cases hdata
    exact .memory rfl hkeys
  | file path disk => exact .file path ⟨Or.inl rfl, hdata⟩

end Shelf

end SpanQuest
