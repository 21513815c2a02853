/-
  Printed objects in bytes.

  The encoding of bytes is told by how they begin.  A printed object begins with
  a brace, and a quote or a brace, so that its bytes are taken as they were
  written.

  * `readBytes?_render`: the bytes of a plain object read back.
-/
import SpanQuest.Proofs.Json.RoundTrip

namespace SpanQuest.Json

open SpanQuest.Text

/-! ## Bytes as a list -/

theorem toList_loop (bytes : ByteArray) (i : Nat) (seen : List UInt8) :
    ByteArray.toList.loop bytes i seen = seen.reverse ++ bytes.data.toList.drop i := by
  rw [ByteArray.toList.loop]
  split
  · next h =>
    have hi : i < bytes.data.toList.length := h
    have hbyte : bytes.get! i = bytes.data.toList[i] := getElem!_pos bytes.data i h
    rw [toList_loop bytes (i + 1), List.drop_eq_getElem_cons hi, hbyte, List.reverse_cons,
      List.append_assoc, List.singleton_append]
  · next h =>
    have hall : bytes.data.toList.drop i = [] := List.drop_eq_nil_of_le (Nat.le_of_not_lt h)
    rw [hall, List.append_nil]
termination_by bytes.size - i

theorem toList_utf8Encode (cs : List Char) :
    cs.utf8Encode.toList = cs.flatMap String.utf8EncodeChar := by
  rw [ByteArray.toList, toList_loop, List.utf8Encode, List.toList_data_toByteArray]
  rfl

/-! ## The encoding of a printed object -/

/-- A text that begins with a brace, and a quote or a brace, is taken as it was
    written. -/
theorem textOfBytes?_toUTF8 {cs : List Char} {c : Char} (h : c = '"' ∨ c = '}') :
    textOfBytes? (String.ofList ('{' :: c :: cs)).toUTF8 = some (String.ofList ('{' :: c :: cs)) := by
  have hbytes : (String.ofList ('{' :: c :: cs)).toUTF8.toList =
      String.utf8EncodeChar '{' ++ (String.utf8EncodeChar c ++ cs.flatMap String.utf8EncodeChar) := by
    rw [String.toUTF8_eq_toByteArray, String.toByteArray_ofList, toList_utf8Encode]
    rfl
  have hutf8 : textOfBytes? (String.ofList ('{' :: c :: cs)).toUTF8 =
      fromUtf8? (String.ofList ('{' :: c :: cs)).toUTF8 := by
    unfold textOfBytes?
    rw [hbytes]
    rcases h with rfl | rfl <;>
      rcases cs.flatMap String.utf8EncodeChar with _ | ⟨b, _ | ⟨b', bs⟩⟩ <;> rfl
  rw [hutf8, fromUtf8?_toUTF8]

theorem renderChars_object_begins (members : List (String × Json)) :
    ∃ c cs, renderChars (.object members) = '{' :: c :: cs ∧ (c = '"' ∨ c = '}') := by
  rcases members with _ | ⟨⟨k, v⟩, ms⟩
  · exact ⟨'}', [], by rw [renderChars], Or.inr rfl⟩
  · exact ⟨'"', _, by rw [renderChars, renderText]; rfl, Or.inl rfl⟩

/-- **The bytes of a plain object read back.** -/
theorem readBytes?_render {members : List (String × Json)}
    (h : (object members).isPlain = true) :
    readBytes? (object members).render.toUTF8 = some (object members) := by
  have hread := (reads_renderChars (object members) h).readChars
  obtain ⟨c, cs, hchars, hc⟩ := renderChars_object_begins members
  rw [hchars] at hread
  unfold readBytes? readBytes render
  rw [hchars, textOfBytes?_toUTF8 hc]
  dsimp only
  rw [String.toList_ofList, hread]
  rfl

end SpanQuest.Json
