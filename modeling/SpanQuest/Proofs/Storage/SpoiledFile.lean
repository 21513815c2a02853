/-
  What a store in a file makes of what the file holds.

  The file is read at the first use of the store, and whatever it holds, the store
  answers from some mapping later on.  If the bytes are those of a text, and no
  integer in it is too long, that is so from the first use on: the mapping has the
  members of the object that the text is, and is empty if the text is none.  But
  bytes that are no text, and an integer that is too long, fail the first use, of
  whatever kind it is, and only the next one finds an empty mapping.

  * `Spoils`, `Gives`: what there is in the bytes;
  * `decode_eq_error_iff`, `gives_of_decode`: what bytes are read as;
  * `answers_of_data`: a store that could be read answers from its mapping, and
    fails for nothing but what is in the way of a write;
  * `ofFile_outcomes`: both, for every content of the file.
-/
import SpanQuest.Proofs.Storage.Standing

namespace SpanQuest

/-! ## What bytes are read as -/

namespace Shelf

/-- The bytes spoil the file: they are no text, or an integer in the text is too
    long. -/
inductive Spoils (bytes : ByteArray) : Fault → Prop where
  | notText (h : String.fromUTF8? bytes = none) :
      Spoils bytes (.notText ((Text.firstMalformed? bytes).getD default))
  | overlong {text : String} {count : Nat} (htext : String.fromUTF8? bytes = some text)
      (hread : Json.read text = .error (.tooManyDigits count)) : Spoils bytes (.digitLimit count)

/-- What the bytes give for a key: the text that the member of the object is shown
    as; and nothing if there is no such member, or no object. -/
inductive Gives (bytes : ByteArray) (key : String) : Option Json → Prop where
  | member {members : List (String × Json)} {v : Json} (hholds : Holds bytes members)
      (hv : Mapping.get? key members = some v) : Gives bytes key (some (.text v.display))
  | nothing (h : ∀ members, Holds bytes members → Mapping.get? key members = none) :
      Gives bytes key none

theorem Holds.eq {bytes : ByteArray} {members members' : List (String × Json)}
    (h : Holds bytes members) (h' : Holds bytes members') : members = members' := by
  obtain ⟨text, htext, hread⟩ := h
  obtain ⟨text', htext', hread'⟩ := h'
  cases htext.symm.trans htext'
  cases hread.symm.trans hread'
  rfl

theorem gives_of_holds {bytes : ByteArray} {members : List (String × Json)}
    (h : Holds bytes members) (key : String) :
    Gives bytes key (Mapping.get? key (members.map fun p => (p.1, Json.text p.2.display))) := by
  rw [Mapping.get?_map (fun v : Json => Json.text v.display)]
  cases hv : Mapping.get? key members with
  | some v => exact .member h hv
  | none =>
    refine .nothing fun members' h' => ?_
    rw [← h.eq h', hv]

theorem gives_none {bytes : ByteArray} {text : String} (htext : String.fromUTF8? bytes = some text)
    (h : ∀ members, Json.read text ≠ .ok (.object members)) (key : String) :
    Gives bytes key none := by
  refine .nothing fun members hholds => ?_
  obtain ⟨text', htext', hread⟩ := hholds
  cases htext.symm.trans htext'
  exact absurd hread (h members)

/-- **Bytes that are read give what they are read as.** -/
theorem gives_of_decode {bytes : ByteArray} {data : Mapping Json} (h : decode bytes = .ok data)
    (key : String) : Gives bytes key (Mapping.get? key data) := by
  unfold decode at h
  split at h
  · cases h
  · next text htext =>
    split at h
    · cases h
    · next hread =>
      cases h
      exact gives_none htext (fun members hobject => by cases hread.symm.trans hobject) key
    · next members hread =>
      cases h
      exact gives_of_holds ⟨text, htext, hread⟩ key
    · next v hno hread =>
      cases h
      refine gives_none htext (fun members hobject => ?_) key
      cases hread.symm.trans hobject
      exact hno members rfl

/-- **Bytes that are not read are spoiled.** -/
theorem decode_eq_error_iff {bytes : ByteArray} {f : Fault} :
    decode bytes = .error f ↔ Spoils bytes f := by
  constructor
  · intro h
    unfold decode at h
    split at h
    · next htext =>
      cases h
      exact .notText htext
    · next text htext =>
      split at h
      · next count hread =>
        cases h
        exact .overlong htext hread
      · cases h
      · cases h
      · cases h
  · intro h
    unfold decode
    cases h with
    | notText htext => rw [htext]
    | overlong htext hread =>
      rw [htext]
      dsimp only
      rw [hread]

theorem Holds.not_spoils {bytes : ByteArray} {members : List (String × Json)}
    (h : Holds bytes members) (f : Fault) : ¬ Spoils bytes f := by
  obtain ⟨text, htext, hread⟩ := h
  intro hspoils
  cases hspoils with
  | notText hnone => cases hnone.symm.trans htext
  | overlong htext' hread' =>
    cases htext.symm.trans htext'
    cases hread.symm.trans hread'

/-! ## Answers from a mapping -/

variable {s : Shelf} {data : Mapping Json} {op : StoreOp} {f : Fault} {path : Path} {disk : Disk}

/-- **The store answers from the mapping**: a look at a key finds its value there,
    however often one looks; after other operations it finds what they have made of
    the mapping; and no operation fails but for what is in the way of a write. -/
structure Answers (s : Shelf) (data : Mapping Json) : Prop where
  again : ∀ (keys : List String) (key : String),
    ((s.performAll (keys.map StoreOp.get)).perform (.get key)).1 = .ok (Mapping.get? key data)
  later : ∀ ops key, ((s.performAll ops).perform (.get key)).1 =
    .ok (Mapping.get? key (StoreOp.applyAll ops data))
  fails : ∀ ops op f, ((s.performAll ops).perform op).1 = .error f → f.isOfDisk = true

theorem applyAll_gets (keys : List String) (data : Mapping Json) :
    StoreOp.applyAll (keys.map StoreOp.get) data = data := by
  induction keys with
  | nil => rfl
  | cons key keys ih => exact ih

/-- **A store that could be read answers from its mapping.** -/
theorem answers_of_data (hdata : s.data = .ok data) (htidy : Tidy data) : s.Answers data := by
  have hlater : ∀ ops key, ((s.performAll ops).perform (.get key)).1 =
      .ok (Mapping.get? key (StoreOp.applyAll ops data)) :=
    fun ops => perform_get (data_performAll hdata htidy ops)
  refine ⟨fun keys key => ?_, hlater, fun ops op f hfail => ?_⟩
  · rw [hlater, applyAll_gets]
  · exact isOfDisk_of_perform (data_performAll hdata htidy ops)
      (StoreOp.tidy_applyAll htidy ops) hfail

theorem data_ofFile {bytes : ByteArray} (hlook : disk.look path = .ok (some (.file bytes))) :
    (ofFile path disk).data = decode bytes := by
  show stored disk path = decode bytes
  rw [stored, hlook]

/-- The first use of a store with a spoiled file fails, and leaves it empty. -/
theorem perform_of_spoils {bytes : ByteArray} (hlook : disk.look path = .ok (some (.file bytes)))
    (h : Spoils bytes f) (op : StoreOp) :
    (ofFile path disk).perform op = (.error f, ⟨.file path (some []), disk⟩) := by
  have hdata : (ofFile path disk).data = .error f :=
    (data_ofFile hlook).trans (decode_eq_error_iff.2 h)
  exact perform_unreadable rfl hdata op

/-- **What a store makes of its file.**  Where there is no file, it answers from the
    empty mapping.  Where the bytes of the file are not spoiled, it answers from what
    they give.  Where they are spoiled, its first use fails, of whatever kind it is,
    and from then on it answers from the empty mapping. -/
theorem ofFile_outcomes {node : Option Node} (hlook : disk.look path = .ok node) :
    ((∀ bytes, node ≠ some (.file bytes)) → (ofFile path disk).Answers []) ∧
      ∀ bytes, node = some (.file bytes) →
        ((∀ f, ¬ Spoils bytes f) → ∃ data, (∀ key, Gives bytes key (Mapping.get? key data)) ∧
          (ofFile path disk).Answers data) ∧
        ∀ f, Spoils bytes f → ∀ op,
          ((ofFile path disk).perform op).1 = .error f ∧
            ((ofFile path disk).perform op).2.Answers [] := by
  refine ⟨?_, ?_⟩
  · intro hnode
    have hdata : (ofFile path disk).data = .ok [] := by
      show stored disk path = .ok []
      unfold stored
      rw [hlook]
      rcases node with _ | ⟨bytes⟩ | _
      · rfl
      · exact absurd rfl (hnode bytes)
      · rfl
    exact answers_of_data hdata .nil
  · rintro bytes rfl
    refine ⟨fun hsound => ?_, fun f hspoils op => ?_⟩
    · rcases hdecode : decode bytes with f | data
      · exact absurd (decode_eq_error_iff.1 hdecode) (hsound f)
      · have hdata := (data_ofFile hlook).trans hdecode
        exact ⟨data, gives_of_decode hdecode, answers_of_data hdata (tidy_decode hdecode)⟩
    · rw [perform_of_spoils hlook hspoils op]
      exact ⟨rfl, answers_of_data rfl .nil⟩

/-- Where a store is kept. -/
def storePath : Path :=
  ⟨false, ["store.json"]⟩

/-- A disk with these bytes in the file of a store. -/
def diskWith (bytes : ByteArray) : Disk :=
  ⟨[(["store.json"], .file bytes)]⟩

theorem look_diskWith (bytes : ByteArray) :
    (diskWith bytes).look storePath = .ok (some (.file bytes)) :=
  rfl

/-- An object with a member that is no text. -/
def counted : Json :=
  .object [("count", .int 1)]

theorem ofFile_outcomes_counted :
    (diskWith counted.render.toUTF8).look storePath = .ok (some (.file counted.render.toUTF8)) ∧
      ∀ keys : List String,
        (((ofFile storePath (diskWith counted.render.toUTF8)).performAll
          (keys.map StoreOp.get)).perform (.get "count")).1 = .ok (some (.text "1")) := by
  have hlook := look_diskWith counted.render.toUTF8
  have hholds : Holds counted.render.toUTF8 [("count", .int 1)] :=
    ⟨_, Text.fromUTF8?_toUTF8 _, Json.read_render (by decide)⟩
  obtain ⟨-, hfile⟩ := ofFile_outcomes hlook
  obtain ⟨data, hgives, hanswers⟩ := (hfile _ rfl).1 hholds.not_spoils
  refine ⟨hlook, fun keys => ?_⟩
  rw [hanswers.again keys "count"]
  have hcount := hgives "count"
  generalize Mapping.get? "count" data = answer at hcount
  cases hcount with
  | member hother hv =>
    cases hholds.eq hother
    cases hv
    have hshown : (Json.int 1).display = "1" := by decide +kernel
    rw [hshown]
  | nothing hnone => cases hnone _ hholds

/-- **A byte that no text has** fails the first look, and the second one finds
    nothing. -/
theorem get_spoiled :
    ((ofFile storePath (diskWith ⟨#[0xff]⟩)).perform (.get "a")).1 =
        .error (.notText ⟨.badStart, 0xff, 0, 1⟩) ∧
      (((ofFile storePath (diskWith ⟨#[0xff]⟩)).perform (.get "a")).2.perform (.get "a")).1 =
        .ok none := by
  have hnone : String.fromUTF8? ⟨#[0xff]⟩ = none := by decide +kernel
  have hplace : (Text.firstMalformed? ⟨#[0xff]⟩).getD default = ⟨.badStart, 0xff, 0, 1⟩ := by
    decide +kernel
  have hspoils := Spoils.notText hnone
  rw [hplace] at hspoils
  rw [perform_of_spoils (look_diskWith _) hspoils]
  exact ⟨rfl, rfl⟩

end Shelf

end SpanQuest
