/-
  Words in the lower case of a text.

  The project compares with words and looks for words whatever their case, and
  lowers the letters of ASCII for that.  No other character has a character of
  ASCII in its lower case, `i` and `k` apart, so that the full lower case gives
  the same for every word of ASCII without these two.

  * `lowerChar_cases`: what the lower case of a character is made of;
  * `lower_eq_iff`: comparing with such a word;
  * `infix_lower_iff`: looking for such a word.
-/
import SpanQuest.Text.LetterCase

namespace SpanQuest.Text

/-! ## The lower case of a character -/

/-- A character of ASCII that stands in the lower case of characters of ASCII
    only. -/
def isHomely (c : Char) : Bool :=
  c.toNat < 0x80 && c != 'i' && c != 'k'

/-- The letters of the range lead to characters beyond ASCII, or its one letter
    leads to `k`. -/
def CaseRange.leadsAway (r : CaseRange) : Bool :=
  let first := (r.first : Int) + r.shift
  let last := (r.last : Int) + r.shift
  (first == 0x6b && r.first == r.last) ||
    (0x80 ≤ first && (last < 0xd800 || (0xe000 ≤ first && last < 0x110000)))

theorem leadsAway_smallRanges : smallRanges.all CaseRange.leadsAway = true := by
  decide +kernel

theorem toNat_ofNat {n : Nat} (h : n.isValidChar) : (Char.ofNat n).toNat = n := by
  unfold Char.ofNat
  rw [dif_pos h]
  rfl

theorem isHomely_ofNat {n : Nat} (h : n.isValidChar) (hn : 0x80 ≤ n ∨ n = 0x6b) :
    isHomely (Char.ofNat n) = false := by
  rcases hn with hn | rfl
  · have hfar : ¬ n < 0x80 := Nat.not_lt.2 hn
    simp [isHomely, toNat_ofNat h, hfar]
  · decide

/-- The small letter of a letter beyond ASCII is not homely. -/
theorem isHomely_of_shiftIn? {n : Nat} {d : Char} (h : shiftIn? smallRanges n = some d) :
    isHomely d = false := by
  obtain ⟨r, hr, rfl⟩ := Option.map_eq_some_iff.1 h
  have hlead := List.all_eq_true.1 leadsAway_smallRanges r (List.mem_of_find?_eq_some hr)
  have hwithin := List.find?_some hr
  simp only [Bool.and_eq_true, decide_eq_true_eq] at hwithin
  simp only [CaseRange.leadsAway, Bool.or_eq_true, Bool.and_eq_true, decide_eq_true_eq,
    beq_iff_eq] at hlead
  apply isHomely_ofNat
  · unfold Nat.isValidChar
    omega
  · omega

/-- The characters are there, and none of them is homely. -/
def Foreign (small : List Char) : Prop :=
  small ≠ [] ∧ ∀ d ∈ small, isHomely d = false

/-- **What the lower case of a character is made of**: one character for one of
    ASCII, and characters that are not homely for any other. -/
theorem lowerChar_cases (c : Char) :
    lowerChar c = [lowerAsciiChar c] ∨
      Foreign (lowerChar c) ∧ isHomely (lowerAsciiChar c) = false := by
  by_cases hc : c.toNat < 0x80
  · left
    simp [lowerChar, hc]
  · right
    have hkept : lowerAsciiChar c = c := by
      unfold lowerAsciiChar
      rw [if_neg]
      intro hcapital
      simp only [Bool.and_eq_true, decide_eq_true_eq, Char.le_def] at hcapital
      have hupper : c.toNat ≤ 0x5a := hcapital.2
      omega
    have hfar : isHomely c = false := by
      simp [isHomely, hc]
    refine ⟨?_, by rw [hkept, hfar]⟩
    unfold lowerChar
    dsimp only
    rw [if_neg hc]
    split
    · -- the capital `I` with a dot is `i` and a dot
      refine ⟨List.cons_ne_nil _ _, fun d hd => ?_⟩
      rcases List.mem_cons.1 hd with rfl | hd
      · decide
      · obtain rfl := List.mem_singleton.1 hd
        decide
    · refine ⟨List.cons_ne_nil _ _, fun d hd => ?_⟩
      obtain rfl := List.mem_singleton.1 hd
      cases hshift : shiftIn? smallRanges c.toNat with
      | none => exact hfar
      | some e => exact isHomely_of_shiftIn? hshift

theorem lowerFrom_cons (before : List Char) (c : Char) (cs : List Char) :
    ∃ small, lowerFrom before (c :: cs) = small ++ lowerFrom (c :: before) cs ∧
      (small = [lowerAsciiChar c] ∨ Foreign small ∧ isHomely (lowerAsciiChar c) = false) := by
  rw [lowerFrom]
  split
  · next hsigma =>
    simp only [Bool.and_eq_true, beq_iff_eq] at hsigma
    obtain ⟨⟨rfl, -⟩, -⟩ := hsigma
    refine ⟨_, rfl, Or.inr ⟨⟨List.cons_ne_nil _ _, fun d hd => ?_⟩, by decide⟩⟩
    obtain rfl := List.mem_singleton.1 hd
    decide
  · exact ⟨_, rfl, lowerChar_cases c⟩

/-! ## Words -/

/-- A word of homely characters. -/
def Homely (word : List Char) : Prop :=
  word.all isHomely = true

instance (word : List Char) : Decidable (Homely word) :=
  inferInstanceAs (Decidable (_ = true))

section

variable {word small rest : List Char} {c d : Char}

theorem homely_cons : Homely (c :: word) ↔ isHomely c = true ∧ Homely word := by
  simp [Homely]

theorem Homely.not_prefix (hword : Homely word) (hnil : word ≠ []) (hd : isHomely d = false) :
    ¬ word <+: d :: rest := by
  intro hfront
  rcases word with _ | ⟨c, word⟩
  · exact hnil rfl
  · obtain ⟨rfl, -⟩ := List.cons_prefix_cons.1 hfront
    have hc := (homely_cons.1 hword).1
    rw [hd] at hc
    cases hc

theorem Homely.infix_of_append (hword : Homely word) (hnil : word ≠ [])
    (hsmall : ∀ d ∈ small, isHomely d = false) (h : word <:+: small ++ rest) : word <:+: rest := by
  induction small with
  | nil => exact h
  | cons d small ih =>
    obtain ⟨hd, hsmall⟩ := List.forall_mem_cons.1 hsmall
    rw [List.cons_append, List.infix_cons_iff] at h
    rcases h with hfront | hlater
    · exact absurd hfront (hword.not_prefix hnil hd)
    · exact ih hsmall hlater

/-- A text begins with a homely word in full lower case exactly if it does with the
    letters of ASCII lowered. -/
theorem prefix_lowerFrom_iff (hword : Homely word) (before cs : List Char) :
    word <+: lowerFrom before cs ↔ word <+: cs.map lowerAsciiChar := by
  induction cs generalizing word before with
  | nil => rfl
  | cons c cs ih =>
    rcases word with _ | ⟨w, word⟩
    · simp
    obtain ⟨small, hlower, hsmall⟩ := lowerFrom_cons before c cs
    rw [hlower, List.map_cons]
    rcases hsmall with rfl | ⟨⟨hnil, hforeign⟩, hc⟩
    · rw [List.singleton_append, List.cons_prefix_cons, List.cons_prefix_cons,
        ih (homely_cons.1 hword).2]
    · rcases small with _ | ⟨d, small⟩
      · exact absurd rfl hnil
      have hd := hforeign d (List.mem_cons_self ..)
      have hcons : w :: word ≠ [] := List.cons_ne_nil w word
      exact iff_of_false (hword.not_prefix hcons hd) (hword.not_prefix hcons hc)

theorem infix_lowerFrom_iff (hword : Homely word) (hnil : word ≠ []) (before cs : List Char) :
    word <:+: lowerFrom before cs ↔ word <:+: cs.map lowerAsciiChar := by
  induction cs generalizing before with
  | nil => rfl
  | cons c cs ih =>
    have hfront := prefix_lowerFrom_iff hword before (c :: cs)
    obtain ⟨small, hlower, hsmall⟩ := lowerFrom_cons before c cs
    rw [hlower, List.map_cons] at hfront ⊢
    rcases hsmall with rfl | ⟨⟨-, hforeign⟩, hc⟩
    · rw [List.singleton_append] at hfront ⊢
      rw [List.infix_cons_iff, List.infix_cons_iff, hfront, ih]
    · rw [List.infix_cons_iff, ← ih (c :: before)]
      constructor
      · exact fun h => Or.inr (hword.infix_of_append hnil hforeign h)
      · rintro (h | h)
        · exact absurd h (hword.not_prefix hnil hc)
        · exact h.trans (List.suffix_append small _).isInfix

/-- **To look for a homely word in the lower case of a text** it is enough to lower
    the letters of ASCII. -/
theorem infix_lower_iff (hword : Homely word) (hnil : word ≠ []) (cs : List Char) :
    word <:+: lower cs ↔ word <:+: cs.map lowerAsciiChar :=
  infix_lowerFrom_iff hword hnil [] cs

end

end SpanQuest.Text
