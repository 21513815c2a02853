/-
  The characters of identifiers.

  An identifier holds no blank, so that a name is told from the blanks around it, and
  none of the characters that a mark is made of.

  * `isBlank_of_isFollowing`: a character of an identifier is no blank;
  * `ne_of_mem_identifier`: nor is it one that no identifier holds.
-/
import SpanQuest.Text.Blank
import SpanQuest.Text.Identifier

namespace SpanQuest.Text

variable {c d : Char} {n : Nat} {first second : List (Nat × Nat)} {name : List Char}

/-- No code point lies in a range of both lists. -/
def apart (first second : List (Nat × Nat)) : Bool :=
  first.all fun r => second.all fun s => Nat.blt r.2 s.1 || Nat.blt s.2 r.1

theorem inRanges_of_apart (h : apart first second = true) (hn : inRanges first n = true) :
    inRanges second n = false := by
  refine Bool.eq_false_iff.2 fun hboth => ?_
  obtain ⟨r, hr, hrn⟩ := List.any_eq_true.1 hn
  obtain ⟨s, hs, hsn⟩ := List.any_eq_true.1 hboth
  have happart := List.all_eq_true.1 (List.all_eq_true.1 h r hr) s hs
  simp only [Bool.and_eq_true, decide_eq_true_eq] at hrn hsn
  simp only [Bool.or_eq_true, Nat.blt_eq] at happart
  omega

/-- The blanks of ASCII. -/
def asciiBlanks : List Nat :=
  List.range' 0x09 5 ++ List.range' 0x1c 5

/-- The blanks beyond ASCII. -/
def blankRanges : List (Nat × Nat) := [(0x85, 0x85), (0xa0, 0xa0), (0x1680, 0x1680),
  (0x2000, 0x200a), (0x2028, 0x2029), (0x202f, 0x202f), (0x205f, 0x205f), (0x3000, 0x3000)]

theorem isBlank_cases (h : isBlank c = true) :
    c.toNat ∈ asciiBlanks ∨ ¬ c.toNat < 0x80 ∧ inRanges blankRanges c.toNat = true := by
  simp only [isBlank, Bool.or_eq_true, Bool.and_eq_true, decide_eq_true_eq, beq_iff_eq] at h
  simp only [asciiBlanks, List.mem_append, List.mem_range'_1, inRanges, blankRanges,
    List.any_cons, List.any_nil, Bool.or_eq_true, Bool.and_eq_true, decide_eq_true_eq]
  omega

/-- **A character of an identifier is no blank.** -/
theorem isBlank_of_isFollowing (h : isFollowing c = true) : isBlank c = false := by
  refine Bool.eq_false_iff.2 fun hblank => ?_
  obtain hascii | ⟨hbeyond, hranges⟩ := isBlank_cases hblank
  · have hnone : ∀ n ∈ asciiBlanks, isFollowing (Char.ofNat n) = false := by decide
    have hfalse := hnone _ hascii
    rw [Char.ofNat_toNat, h] at hfalse
    cases hfalse
  · have hinitial : apart blankRanges initialRanges = true := by decide +kernel
    have hfollowing : apart blankRanges followingRanges = true := by decide +kernel
    unfold isFollowing isInitial at h
    rw [if_neg hbeyond, if_neg hbeyond, inRanges_of_apart hinitial hranges,
      inRanges_of_apart hfollowing hranges] at h
    cases h

theorem isFollowing_of_mem_identifier (h : isIdentifier name = true) (hc : c ∈ name) :
    isFollowing c = true := by
  cases name with
  | nil => cases hc
  | cons first rest =>
    obtain ⟨hinitial, hrest⟩ := Bool.and_eq_true_iff.1 h
    obtain rfl | hc := List.mem_cons.1 hc
    · exact isFollowing_of_isInitial hinitial
    · exact List.all_eq_true.1 hrest c hc

theorem ne_of_mem_identifier (h : isIdentifier name = true) (hc : c ∈ name)
    (hd : isFollowing d = false) : c ≠ d := by
  rintro rfl
  rw [isFollowing_of_mem_identifier h hc] at hd
  cases hd

end SpanQuest.Text
