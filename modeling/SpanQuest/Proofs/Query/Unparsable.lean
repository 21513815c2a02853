/-
  How long an excerpt is, and how long the message of an unparsable reply.

  The excerpt of a text fits its limit and is a line, which is its own excerpt.
  The message of an unparsable reply holds the excerpt of the reply between
  quotes, where a character may take ten, and a reason: a fixed one, the kind of
  a value, or a complaint with its place.  The place lies in the reply, so that
  only its three numbers grow with the reply.

  * `Place.Within`, `within_of_read`: where a reader of JSON complains;
  * `failure_of_objectOf`: the reason why a reply is unparsable;
  * `excerpts_bounded`: excerpts, and the messages that are made of them.
-/
import SpanQuest.Proofs.Query.Extraction
import SpanQuest.Proofs.Text.Line

namespace SpanQuest

/-! ## Lengths of what messages are made of -/

theorem toString_text (s : String) : toString s = s :=
  rfl

theorem length_toString_nat (n : Nat) : (toString n).length = (decimalDigits n).length :=
  String.length_ofList

theorem length_decimalDigits_mono {m n : Nat} (h : m ≤ n) :
    (decimalDigits m).length ≤ (decimalDigits n).length := by
  have hn : n < 10 ^ (decimalDigits n).length :=
    (Nat.length_toDigits_le_iff (by decide) Nat.length_toDigits_pos).1 le_rfl
  exact (Nat.length_toDigits_le_iff (by decide) Nat.length_toDigits_pos).2 (h.trans_lt hn)

theorem Text.length_quoted_le (s : String) : (quoted s).length ≤ 10 * s.length + 2 := by
  have hinside (quote : Char) (cs : List Char) :
      (cs.flatMap (escapeChar quote)).length ≤ 10 * cs.length := by
    induction cs with
    | nil => simp
    | cons c cs ih =>
      have hc := escapeChar_length_le quote c
      simp only [List.flatMap_cons, List.length_append, List.length_cons]
      omega
  have hall := hinside (quoteFor s.toList) s.toList
  rw [String.length_toList] at hall
  simp only [quoted, quotedChars, String.length_ofList, List.length_append, List.length_cons,
    List.length_nil]
  omega

namespace Json

theorem length_kindName_le (v : Json) : v.kindName.length ≤ 8 := by
  cases v <;> simp only [kindName] <;> decide

theorem Complaint.length_message_le (complaint : Complaint) : complaint.message.length ≤ 49 := by
  cases complaint <;> decide

/-! ## Where a reader complains -/

/-- The place is one of a text of `n` characters, or right after it. -/
structure Place.Within (n : Nat) (p : Place) : Prop where
  line : p.line ≤ n + 1
  column : p.column ≤ n + 1
  offset : p.offset ≤ n

theorem Place.Within.mono {m n : Nat} {p : Place} (h : p.Within m) (hmn : m ≤ n) : p.Within n where
  line := h.line.trans (Nat.succ_le_succ hmn)
  column := h.column.trans (Nat.succ_le_succ hmn)
  offset := h.offset.trans hmn

theorem Place.within_after {n : Nat} {before : List Char} (h : before.length ≤ n) :
    (Place.after before).Within n where
  line := Nat.succ_le_succ (List.count_le_length.trans h)
  column := by
    have hline := (List.takeWhile_sublist (· != '\n') (l := before.reverse)).length_le
    rw [List.length_reverse] at hline
    exact Nat.succ_le_succ (hline.trans h)
  offset := h

/-- **A complaint is about a place in the text.** -/
theorem within_of_read {s : String} {complaint : Complaint} {p : Place}
    (h : Json.read s = .error (.malformed complaint p)) : p.Within s.length := by
  unfold Json.read at h
  dsimp only at h
  split at h
  · cases h
    exact Place.within_after (Nat.zero_le _)
  · rcases hread : readChars s.toList with (⟨c, left⟩ | count) | v <;> rw [hread] at h <;> cases h
    refine Place.within_after ?_
    rw [← String.length_toList, List.length_take]
    exact Nat.min_le_right _ _

/-- The numbers of a place have at most as many digits as that of all places. -/
theorem length_message_le {n : Nat} (complaint : Complaint) {p : Place} (h : p.Within n) :
    (ReadError.malformed complaint p).message.length ≤
      72 + 3 * (decimalDigits (n + 1)).length := by
  have hcomplaint := complaint.length_message_le
  have hline := length_decimalDigits_mono h.line
  have hcolumn := length_decimalDigits_mono h.column
  have hoffset := length_decimalDigits_mono (h.offset.trans (Nat.le_add_right n 1))
  have hwords : ": line ".length = 7 ∧ " column ".length = 8 ∧ " (char ".length = 7 ∧
      ")".length = 1 := by decide
  obtain ⟨hword₁, hword₂, hword₃, hword₄⟩ := hwords
  rw [ReadError.message]
  simp only [String.length_append, toString_text, length_toString_nat, hword₁, hword₂, hword₃, hword₄]
  omega

end Json

/-! ## Why a reply is unparsable -/

theorem Failure.length_message_unparsable_le (reason shown : String) :
    (unparsable (.text reason) shown).message.length ≤
      reason.length + (Text.quoted shown).length + 51 := by
  have hwords : "Failed to parse LLM response as JSON: ".length = 38 ∧
      " (response: ".length = 12 ∧ ")".length = 1 := by decide
  obtain ⟨hword₁, hword₂, hword₃⟩ := hwords
  unfold Failure.message
  dsimp only
  split <;>
    simp only [String.length_append, toString_text, Json.display, hword₁, hword₂, hword₃] <;>
    omega

namespace Reply

variable {reply : String} {f : Failure}

theorem length_le_of_locate {span : String} (h : locate reply = .ok span) :
    span.length ≤ reply.length := by
  rw [← String.length_toList, ← String.length_toList]
  exact (infix_of_locate h).length_le

/-- **The reason why a reply is unparsable**: only the place of a complaint grows
    with the reply. -/
theorem failure_of_objectOf (h : objectOf reply = .error (.failure f)) :
    ∃ reason : String, f = .unusableReply (.text reason) reply ∧
      reason.length ≤ 72 + 3 * (decimalDigits (reply.length + 1)).length := by
  unfold objectOf at h
  split at h
  · next hlocate =>
    unfold locate at hlocate
    split at hlocate
    · cases hlocate
    · cases hlocate
      cases h
      refine ⟨_, rfl, ?_⟩
      have hreason : "no JSON object found".length = 20 := by decide
      omega
  · next span hlocate =>
    have hspan := length_le_of_locate hlocate
    split at h
    · cases h
    · next e hcount hread =>
      cases h
      rcases e with ⟨complaint, place⟩ | count
      · exact ⟨_, rfl, Json.length_message_le complaint ((Json.within_of_read hread).mono hspan)⟩
      · exact absurd rfl (hcount count)
    · cases h
    · next v hv hread =>
      cases h
      refine ⟨_, rfl, ?_⟩
      have hreason : "expected a JSON object, got ".length = 28 := by decide
      have hkind := v.length_kindName_le
      simp only [String.length_append, toString_text, hreason]
      omega

theorem failure_of_queryOf {question : String} (h : queryOf reply question = .error (.failure f)) :
    objectOf reply = .error (.failure f) := by
  unfold queryOf at h
  rcases hobject : objectOf reply with t | v <;> rw [hobject] at h <;> cases h
  rfl

/-- **Excerpts are bounded, and so are the messages that hold them.**  The excerpt
    of a text fits its limit, is a line, and is the words of the text, one space
    apart, or as many characters of these as fit before the mark of a cut; it is its
    own excerpt.  The failure to read a query in a reply holds the excerpt of the
    reply, and its message grows with the digits of three numbers only. -/
theorem excerpts_bounded :
    (∀ (s : String) (limit : Int), 3 ≤ limit →
      (∃ ws, Text.Worded s.toList ws ∧
        Text.IsExcerpt limit ([' '].intercalate ws) (Text.excerpt s limit).toList) ∧
      Text.excerpt (Text.excerpt s limit) limit = Text.excerpt s limit) ∧
    ∀ (reply question : String) (f : Failure), queryOf reply question = .error (.failure f) →
      ∃ reason shown, f = .unparsable reason shown ∧ shown = Text.excerpt reply Text.excerptLimit ∧
        shown.length ≤ 200 ∧
        f.message.length ≤ 2200 + 3 * (decimalDigits (reply.length + 1)).length := by
  constructor
  · intro s limit hlimit
    obtain ⟨ws, hws⟩ := Text.exists_worded s.toList
    refine ⟨⟨ws, hws, ?_⟩, ?_⟩
    · rw [Text.excerpt, String.toList_ofList, ← Text.flatten_eq hws]
      exact Text.isExcerpt_excerptChars hlimit s.toList
    · rw [Text.excerpt, Text.excerpt, String.toList_ofList, Text.excerptChars_excerptChars hlimit]
  · intro reply question f h
    obtain ⟨reason, rfl, hreason⟩ := failure_of_objectOf (failure_of_queryOf h)
    refine ⟨.text reason, _, rfl, rfl, ?_⟩
    have hshown : (Text.excerpt reply Text.excerptLimit).length ≤ 200 := by
      have hlimit : (3 : Int) ≤ Text.excerptLimit := by decide
      have hfits := Text.length_excerptChars_le hlimit reply.toList
      rw [Text.excerpt, String.length_ofList]
      exact Int.ofNat_le.1 hfits
    have hmessage := Failure.length_message_unparsable_le reason (Text.excerpt reply Text.excerptLimit)
    have hquoted := Text.length_quoted_le (Text.excerpt reply Text.excerptLimit)
    refine ⟨hshown, ?_⟩
    rw [Failure.unusableReply]
    omega

/-- A reply with a name that is no text, in its second line. -/
def bareNameReply : String :=
  "Sure:\x7b\n\"service\": user\x7d"

theorem malformed_bareNameReply : Malformed bareNameReply := by
  refine ⟨"\x7b\n\"service\": user\x7d".toList, .expectedValue, ⟨2, 12, 13⟩, by decide, ?_⟩
  rw [String.ofList_toList]
  cbv

/-- A text with a line separator that is cut at a space, and a reply that is
    malformed. -/
theorem excerpts_bounded_sample :
    (3 : Int) ≤ 9 ∧
      (∃ ws, Text.Worded " ab\u2028\tcd efgh".toList ws ∧
        Text.IsExcerpt 9 ([' '].intercalate ws) (Text.excerpt " ab\u2028\tcd efgh" 9).toList) ∧
      Text.excerpt (Text.excerpt " ab\u2028\tcd efgh" 9) 9 = Text.excerpt " ab\u2028\tcd efgh" 9 ∧
      ∃ f, queryOf bareNameReply "q" = .error (.failure f) ∧
        ∃ reason shown, f = .unparsable reason shown ∧
          shown = Text.excerpt bareNameReply Text.excerptLimit ∧ shown.length ≤ 200 ∧
          f.message.length ≤ 2200 + 3 * (decimalDigits (bareNameReply.length + 1)).length := by
  have hlimit : (3 : Int) ≤ 9 := by decide
  obtain ⟨hwords, hagain⟩ := excerpts_bounded.1 " ab\u2028\tcd efgh" 9 hlimit
  obtain ⟨f, hf, -⟩ := queryOf_of_holdsNoObject (Or.inr (Or.inl malformed_bareNameReply)) "q"
  exact ⟨hlimit, hwords, hagain, f, hf, excerpts_bounded.2 bareNameReply "q" f hf⟩

end Reply

end SpanQuest
