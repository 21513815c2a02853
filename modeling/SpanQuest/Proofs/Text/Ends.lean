/-
  The ends of a text.

  Blanks are cut off both ends of a text, and so are quotes: of any class of
  characters, what is left of the text neither begins nor ends with one, and
  nothing but such characters stood around it (`Stripped`).

  * `dropEnds_eq_iff`: to drop a class at both ends is to strip the text of it;
  * `trimChars_eq_iff`: the same of blanks.
-/
import Mathlib.Data.List.TakeWhile
import SpanQuest.Text.Blank

namespace SpanQuest.Text

variable {p : Char → Bool} {cs w : List Char}

/-- `w` is what is left of the text without the characters of the class at both
    ends. -/
structure Stripped (p : Char → Bool) (cs w : List Char) : Prop where
  within : ∃ before after, cs = before ++ (w ++ after) ∧ (∀ c ∈ before, p c = true) ∧
    ∀ c ∈ after, p c = true
  first : ∀ c, w.head? = some c → p c = false
  last : ∀ c, w.getLast? = some c → p c = false

theorem eq_false_of_head?_dropWhile {c : Char} (h : (cs.dropWhile p).head? = some c) :
    p c = false := by
  have hnot := List.head?_dropWhile_not p cs
  rw [h] at hnot
  exact hnot

/-- Characters of a class go, and what begins with none of them stays. -/
theorem dropWhile_append_of_first {before rest : List Char} (hbefore : ∀ c ∈ before, p c = true)
    (hrest : ∀ c, rest.head? = some c → p c = false) : (before ++ rest).dropWhile p = rest := by
  rw [List.dropWhile_append_of_pos hbefore]
  cases rest with
  | nil => rfl
  | cons c rest => exact List.dropWhile_cons_of_neg (by simp [hrest c rfl])

/-- **To drop a class at both ends is to strip the text of it.** -/
theorem dropEnds_eq_iff : ((cs.dropWhile p).reverse.dropWhile p).reverse = w ↔ Stripped p cs w := by
  constructor
  · rintro rfl
    have hfront := List.takeWhile_append_dropWhile (p := p) (l := cs)
    have hback := List.takeWhile_append_dropWhile (p := p) (l := (cs.dropWhile p).reverse)
    refine ⟨⟨cs.takeWhile p, (((cs.dropWhile p).reverse).takeWhile p).reverse, ?_, ?_, ?_⟩, ?_, ?_⟩
    · rw [← List.reverse_append, hback, List.reverse_reverse, hfront]
    · exact fun c hc => List.all_eq_true.1 List.all_takeWhile c hc
    · exact fun c hc => List.all_eq_true.1 List.all_takeWhile c (List.mem_reverse.1 hc)
    · intro c hc
      have hrest : (cs.dropWhile p).head? = some c := by
        rw [← List.reverse_reverse (cs.dropWhile p), ← hback, List.reverse_append,
          List.head?_append, hc, Option.some_or]
      exact eq_false_of_head?_dropWhile hrest
    · intro c hc
      rw [List.getLast?_reverse] at hc
      exact eq_false_of_head?_dropWhile hc
  · rintro ⟨⟨before, after, rfl, hbefore, hafter⟩, hfirst, hlast⟩
    rcases hw : w with _ | ⟨c, cs⟩
    · have hnil : (before ++ ([] ++ after)).dropWhile p = [] := by
        rw [List.dropWhile_append_of_pos hbefore, List.nil_append, List.dropWhile_eq_nil_iff]
        exact hafter
      rw [hnil]
      rfl
    · rw [← hw]
      have hfront : (before ++ (w ++ after)).dropWhile p = w ++ after := by
        refine dropWhile_append_of_first hbefore fun d hd => hfirst d ?_
        rw [hw] at hd ⊢
        exact hd
      have hback : (w ++ after).reverse.dropWhile p = w.reverse := by
        rw [List.reverse_append]
        refine dropWhile_append_of_first (fun d hd => hafter d (List.mem_reverse.1 hd)) ?_
        intro d hd
        rw [List.head?_reverse] at hd
        exact hlast d hd
      rw [hfront, hback, List.reverse_reverse]

theorem trimChars_eq_iff : trimChars cs = w ↔ Stripped isBlank cs w :=
  dropEnds_eq_iff

theorem Stripped.mem {c : Char} (h : Stripped p cs w) (hc : c ∈ w) : c ∈ cs := by
  obtain ⟨before, after, rfl, -, -⟩ := h.within
  exact List.mem_append_right _ (List.mem_append_left _ hc)

theorem Stripped.eq {w' : List Char} (h : Stripped p cs w) (h' : Stripped p cs w') : w = w' :=
  (dropEnds_eq_iff.2 h).symm.trans (dropEnds_eq_iff.2 h')

end SpanQuest.Text
