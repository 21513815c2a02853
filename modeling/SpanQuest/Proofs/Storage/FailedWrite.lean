/-
  A store after a write that failed.

  A set or a delete changes the mapping in memory before it writes the file.
  So where the write fails, the store goes on as if it had not failed, while a
  fresh store reads what there is: nothing, if something is in the way of the
  path.

  * `write_of_perform_error`: what an operation that fails has done;
  * `stored_perform_error`: a fresh store finds nothing after a failed write;
  * `perform_failed`: the store answers as if the write had succeeded, and so as
    before exactly if the key had the value already.
-/
import SpanQuest.Proofs.Storage.Operation

namespace SpanQuest

namespace Shelf

variable {s : Shelf} {path : Path} {cache : Option (Mapping Json)} {data : Mapping Json}
  {op : StoreOp} {f : Fault}

theorem writes_of_perform_error (hs : s.store = .file path cache) (hdata : s.data = .ok data)
    (hfail : (s.perform op).1 = .error f) : op.writes data = true := by
  cases hop : op.writes data with
  | true => rfl
  | false =>
    rw [perform_unwritten hs hdata hop] at hfail
    cases hfail

/-- An operation that fails has changed the mapping and then failed to write it. -/
theorem write_of_perform_error (hs : s.store = .file path cache) (hdata : s.data = .ok data)
    (htidy : Tidy data) (hfail : (s.perform op).1 = .error f) :
    ∃ made, s.disk.write path (encode (op.applyTo data)) = (.error f, made) ∧
      (s.perform op).2 = ⟨.file path (some (op.applyTo data)), made⟩ := by
  have hperform := perform_written hs hdata htidy (writes_of_perform_error hs hdata hfail)
  rw [hperform] at hfail
  rcases hwrite : s.disk.write path (encode (op.applyTo data)) with ⟨written, made⟩
  rw [hwrite] at hfail hperform
  cases written with
  | ok done => cases hfail
  | error g =>
    cases hfail
    exact ⟨made, rfl, by rw [hperform]⟩

/-- On a store of either kind an operation fails for nothing but what is in the way
    of its write. -/
theorem isOfDisk_of_perform (hdata : s.data = .ok data) (htidy : Tidy data)
    (hfail : (s.perform op).1 = .error f) : f.isOfDisk = true := by
  cases hs : s.store with
  | memory m =>
    rw [perform_memory hs] at hfail
    cases hfail
  | file path cache =>
    obtain ⟨made, hwrite, -⟩ := write_of_perform_error hs hdata htidy hfail
    exact Disk.isOfDisk_of_write hwrite

/-- With something in the way of the path there is nothing in the file. -/
theorem stored_perform_error (hs : s.store = .file path cache) (hdata : s.data = .ok data)
    (htidy : Tidy data) (hnames : path.names ≠ []) (hfail : (s.perform op).1 = .error f)
    {found : Mapping Json} (hfound : stored (s.perform op).2.disk path = .ok found) : found = [] := by
  obtain ⟨made, hwrite, hafter⟩ := write_of_perform_error hs hdata htidy hfail
  rw [hafter] at hfound
  have hnofile := Disk.look_of_write_error hnames hwrite
  unfold stored at hfound
  split at hfound
  · cases hfound
  · next bytes hlook => exact absurd hlook (hnofile bytes)
  · cases hfound
    rfl

/-- The operation sets a key to the value that it has. -/
def Repeats (op : StoreOp) (data : Mapping Json) : Prop :=
  ∃ key value, op = .set key value ∧ Mapping.get? key data = some (.text value)

theorem get?_applyTo_eq_iff (htidy : Tidy data) (hop : op.writes data = true) :
    (∀ key, Mapping.get? key (op.applyTo data) = Mapping.get? key data) ↔ Repeats op data := by
  constructor
  · intro hsame
    cases op with
    | get key => cases hop
    | set key value =>
      exact ⟨key, value, rfl, (hsame key).symm.trans (Mapping.get?_put_self key _ data)⟩
    | delete key =>
      have hnone := (hsame key).symm.trans (Mapping.get?_erase_self key htidy.distinct)
      simp [StoreOp.writes, Mapping.has, hnone] at hop
  · rintro ⟨key, value, rfl, hvalue⟩ other
    exact congrArg _ (Mapping.put_of_get? hvalue)

/-- **A store after a write that failed** answers as if it had succeeded, from
    then on and whatever the write has left on the disk: what it shows is as before
    exactly if the operation was to set a key to the value that it had.

    On the disks here a write fails only for what is in the way of its path: a name
    that is too long or has a NUL, a file among the directories, a directory in the
    place of the file.  Then a fresh store on the same file finds no value for any
    key.  A write that is refused for another reason may leave the file as it is,
    and then a fresh store finds what it would have found before. -/
theorem perform_failed (hs : s.store = .file path cache) (hdata : s.data = .ok data)
    (htidy : Tidy data) (hfail : (s.perform op).1 = .error f) :
    (∀ left later key, (((⟨(s.perform op).2.store, left⟩ : Shelf).performAll later).get key).1 =
        .ok (Mapping.get? key (StoreOp.applyAll later (op.applyTo data)))) ∧
      ((∀ key, ((s.perform op).2.get key).1 = (s.get key).1) ↔ Repeats op data) ∧
      f.isOfDisk = true ∧
      (path.names ≠ [] → ∀ key value, ((s.perform op).2.reopen.get key).1 ≠ .ok (some value)) ∧
      ∀ left : Disk, left.look path = s.disk.look path →
        ∀ key, ((ofFile path left).get key).1 = (s.reopen.get key).1 := by
  obtain ⟨made, -, hafter⟩ := write_of_perform_error hs hdata htidy hfail
  have hop := writes_of_perform_error hs hdata hfail
  refine ⟨fun left later key => ?_, ?_, isOfDisk_of_perform hdata htidy hfail,
    fun hnames key value hvalue => ?_, fun left hleft key => ?_⟩
  · rw [hafter]
    exact perform_get (data_performAll rfl (StoreOp.tidy_applyTo htidy op) later) key
  · have hget (key : String) : ((s.perform op).2.get key).1 = (s.get key).1 ↔
        Mapping.get? key (op.applyTo data) = Mapping.get? key data := by
      rw [show ((s.perform op).2.get key).1 = _ from perform_get (data_perform hdata htidy op) key,
        show (s.get key).1 = _ from perform_get hdata key, Except.ok.injEq]
    simp only [hget]
    exact get?_applyTo_eq_iff htidy hop
  · have hreopen : (s.perform op).2.reopen = ⟨.file path none, (s.perform op).2.disk⟩ := by
      rw [hafter]
      rfl
    rw [hreopen] at hvalue
    rcases hfound : stored (s.perform op).2.disk path with g | found
    · simp [get, Shelf.data, hfound, Except.map] at hvalue
    · obtain rfl := stored_perform_error hs hdata htidy hnames hfail hfound
      simp [get, Shelf.data, hfound, Except.map, Mapping.get?] at hvalue
  · have hreopen : s.reopen = ofFile path s.disk := by
      rw [reopen, hs]
      rfl
    have hstored : stored left path = stored s.disk path := by
      rw [stored, stored, hleft]
    rw [hreopen]
    exact congrArg (Except.map _) hstored

/-- A disk with a directory where a store is to be. -/
def directoryInTheWay : Disk :=
  ⟨[(["store.json"], .directory)]⟩

theorem perform_failed_directory :
    (ofFile ⟨false, ["store.json"]⟩ directoryInTheWay).data = .ok [] ∧ Tidy [] ∧
      ((ofFile ⟨false, ["store.json"]⟩ directoryInTheWay).perform (.set "key" "value")).1 =
        .error (.isDirectory "store.json") ∧
      ∀ left later key, (((⟨((ofFile ⟨false, ["store.json"]⟩ directoryInTheWay).perform
          (.set "key" "value")).2.store, left⟩ : Shelf).performAll later).get key).1 =
        .ok (Mapping.get? key (StoreOp.applyAll later [("key", .text "value")])) := by
  have hdata : (ofFile ⟨false, ["store.json"]⟩ directoryInTheWay).data = .ok [] := rfl
  have hfail : ((ofFile ⟨false, ["store.json"]⟩ directoryInTheWay).perform
      (.set "key" "value")).1 = .error (.isDirectory "store.json") := rfl
  exact ⟨hdata, .nil, hfail, (perform_failed rfl hdata .nil hfail).1⟩

/-- A set that fails on a directory is seen by the next get, which found nothing
    before and finds nothing in a fresh store. -/
theorem get_after_failed_set :
    ((ofFile ⟨false, ["store.json"]⟩ directoryInTheWay).perform (.set "key" "value")).1 =
        .error (.isDirectory "store.json") ∧
      ((ofFile ⟨false, ["store.json"]⟩ directoryInTheWay).get "key").1 = .ok none ∧
      (((ofFile ⟨false, ["store.json"]⟩ directoryInTheWay).perform
        (.set "key" "value")).2.get "key").1 = .ok (some (.text "value")) ∧
      (((ofFile ⟨false, ["store.json"]⟩ directoryInTheWay).perform
        (.set "key" "value")).2.reopen.get "key").1 = .ok none :=
  ⟨rfl, rfl, rfl, rfl⟩

end Shelf

end SpanQuest
