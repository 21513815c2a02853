/-
  What the file of a store holds.

  A store in a file writes its mapping as one object, and reads it again as a
  mapping of texts.  A mapping of texts under distinct keys comes back as it
  was, in its order; whatever else a file holds, it is read as such a mapping.

  * `Tidy`: a mapping of texts under distinct keys;
  * `decode_encode`: a tidy mapping that was written reads back;
  * `tidy_stored`: what a fresh store reads from its file is tidy.
-/
import SpanQuest.Proofs.Json.Extent
import SpanQuest.Storage.Shelf

namespace SpanQuest

/-! ## Mappings of texts -/

/-- **The mappings that a file keeps as they are**: each value is a text, and no
    key occurs twice. -/
structure Tidy (data : Mapping Json) : Prop where
  distinct : (Mapping.keys data).Nodup
  texts : ∀ p ∈ data, ∃ s, p.2 = .text s

namespace Tidy

variable {data : Mapping Json}

theorem nil : Tidy [] :=
  ⟨List.nodup_nil, by simp⟩

theorem put (h : Tidy data) (key value : String) : Tidy (Mapping.put key (.text value) data) := by
  refine ⟨Mapping.nodup_keys_put key _ h.distinct, fun p hp => ?_⟩
  rcases Mapping.mem_put hp with hp | rfl
  · exact h.texts p hp
  · exact ⟨value, rfl⟩

theorem erase (h : Tidy data) (key : String) : Tidy (Mapping.erase key data) :=
  ⟨Mapping.nodup_keys_erase key h.distinct, fun p hp => h.texts p (Mapping.mem_of_mem_erase hp)⟩

/-- A value of a tidy mapping is a text, and so never null. -/
theorem get?_eq_text (h : Tidy data) {key : String} {v : Json}
    (hv : Mapping.get? key data = some v) : ∃ s, v = .text s := by
  induction data with
  | nil => cases hv
  | cons q rest ih =>
    by_cases hq : q.1 = key
    · simp only [Mapping.get?, hq, BEq.rfl, if_true, Option.some.injEq] at hv
      exact hv ▸ h.texts q (List.mem_cons_self ..)
    · simp only [Mapping.get?, beq_iff_eq, hq, if_false] at hv
      exact ih ⟨(List.nodup_cons.1 h.distinct).2, fun p hp => h.texts p (List.mem_cons_of_mem _ hp)⟩ hv

theorem isPlain (h : Tidy data) : (Json.object data).isPlain = true := by
  have hmembers : Json.membersPlain data = true := by
    have htexts := h.texts
    clear h
    induction data with
    | nil => rfl
    | cons p rest ih =>
      obtain ⟨k, v⟩ := p
      obtain ⟨s, hs⟩ := htexts (k, v) (List.mem_cons_self ..)
      dsimp only at hs
      rw [Json.membersPlain, ih fun p hp => htexts p (List.mem_cons_of_mem _ hp), hs]
      rfl
  rw [Json.isPlain, hmembers, Bool.and_true]
  exact decide_eq_true h.distinct

theorem map_display (h : Tidy data) :
    data.map (fun p => (p.1, Json.text p.2.display)) = data := by
  refine (List.map_congr_left fun p hp => ?_).trans (List.map_id data)
  obtain ⟨k, v⟩ := p
  obtain ⟨s, rfl⟩ : ∃ s, v = .text s := h.texts (k, v) hp
  rfl

end Tidy

namespace Shelf

variable {data : Mapping Json}

/-! ## Writing and reading -/

/-- The bytes of a file hold exactly the mapping: they are a text, and the text
    is that of an object with the pairs of the mapping in their order. -/
def Holds (bytes : ByteArray) (data : Mapping Json) : Prop :=
  ∃ text, String.fromUTF8? bytes = some text ∧ Json.read text = .ok (.object data)

/-- **What is written for a tidy mapping holds it.** -/
theorem holds_encode (h : Tidy data) : Holds (encode data) data :=
  ⟨_, Text.fromUTF8?_toUTF8 _, Json.read_renderIndented h.isPlain⟩

/-- **A tidy mapping that was written reads back.** -/
theorem decode_encode (h : Tidy data) : decode (encode data) = .ok data := by
  obtain ⟨text, htext, hread⟩ := holds_encode h
  unfold decode
  simp only [htext, hread, h.map_display]

theorem tidy_decode {bytes : ByteArray} (h : decode bytes = .ok data) : Tidy data := by
  unfold decode at h
  split at h
  · cases h
  split at h
  · cases h
  · cases h
    exact Tidy.nil
  · next members hread =>
    cases h
    refine ⟨?_, fun p hp => ?_⟩
    · have hkeys : Mapping.keys (members.map fun p => (p.1, Json.text p.2.display)) =
          Mapping.keys members := by simp [Mapping.keys]
      rw [hkeys]
      exact (Json.readable_of_read hread).nodup
    · obtain ⟨q, -, rfl⟩ := List.mem_map.1 hp
      exact ⟨_, rfl⟩
  · cases h
    exact Tidy.nil

/-- **What a fresh store reads from its file is tidy.** -/
theorem tidy_stored {disk : Disk} {path : Path} (h : stored disk path = .ok data) : Tidy data := by
  unfold stored at h
  split at h
  · cases h
  · exact tidy_decode h
  · cases h
    exact Tidy.nil

end Shelf

end SpanQuest
