/-
  Blank characters, and the two things the project does with them: cutting the
  blank ends off a text, and splitting a text into its words.

  * `isBlank` is the class of the characters that separate words: the ASCII
    blanks, the four information separators, the next-line control and the
    spaces of Unicode.  The zero-width space and the byte-order mark are not
    in it;
  * `trimChars` and `trim` cut blanks off both ends;
  * `wordsOf` are the maximal runs of characters that are not blank; a text of
    blanks has no word.
-/
namespace SpanQuest.Text

/-! ## The class -/

/-- The characters that separate words. -/
def isBlank (c : Char) : Bool :=
  let n := c.toNat
  (0x09 ≤ n && n ≤ 0x0d) || (0x1c ≤ n && n ≤ 0x20) || n == 0x85 || n == 0xa0 || n == 0x1680 ||
    (0x2000 ≤ n && n ≤ 0x200a) || n == 0x2028 || n == 0x2029 || n == 0x202f || n == 0x205f ||
    n == 0x3000

/-! ## Trimming -/

/-- The characters without the blanks at both ends. -/
def trimChars (cs : List Char) : List Char :=
  ((cs.dropWhile isBlank).reverse.dropWhile isBlank).reverse

/-- The text without the blanks at both ends. -/
def trim (s : String) : String :=
  String.ofList (trimChars s.toList)

/-- A text of blanks only; the empty text is one. -/
def allBlank (s : String) : Bool :=
  s.toList.all isBlank

/-- The text holds a character that is not blank. -/
def hasInk (s : String) : Bool :=
  !allBlank s

/-- A text with a character that is not blank is not empty. -/
theorem isEmpty_of_hasInk {s : String} (h : hasInk s = true) : s.isEmpty = false := by
  cases hempty : s.isEmpty with
  | false => rfl
  | true =>
    rw [String.isEmpty_iff.1 hempty] at h
    cases h

/-! ## Words -/

/-- The words of `cs`, where `word` is the reversed beginning of the word under way. -/
def wordsFrom (word : List Char) : List Char → List (List Char)
  | [] => if word.isEmpty then [] else [word.reverse]
  | c :: cs =>
    if isBlank c then
      if word.isEmpty then wordsFrom [] cs else word.reverse :: wordsFrom [] cs
    else wordsFrom (c :: word) cs

/-- The maximal runs of characters that are not blank, in order. -/
def wordsOf (cs : List Char) : List (List Char) :=
  wordsFrom [] cs

/-- A word is never empty and holds no blank. -/
theorem mem_wordsFrom {w : List Char} {word cs : List Char}
    (hword : ∀ c ∈ word, isBlank c = false) (h : w ∈ wordsFrom word cs) :
    w ≠ [] ∧ ∀ c ∈ w, isBlank c = false := by
  induction cs generalizing word with
  | nil =>
    cases word with
    | nil => simp [wordsFrom] at h
    | cons a as =>
      simp only [wordsFrom, List.isEmpty_cons, Bool.false_eq_true, if_false,
        List.mem_singleton] at h
      subst h
      exact ⟨by simp, fun d hd => hword d (List.mem_reverse.1 hd)⟩
  | cons c cs ih =>
    by_cases hc : isBlank c = true
    · cases word with
      | nil =>
        simp only [wordsFrom, hc, if_true, List.isEmpty_nil] at h
        exact ih (by simp) h
      | cons a as =>
        simp only [wordsFrom, hc, if_true, List.isEmpty_cons, Bool.false_eq_true, if_false,
          List.mem_cons] at h
        rcases h with rfl | h
        · exact ⟨by simp, fun d hd => hword d (List.mem_reverse.1 hd)⟩
        · exact ih (by simp) h
    · simp only [wordsFrom, hc, Bool.false_eq_true, if_false] at h
      refine ih ?_ h
      intro d hd
      rcases List.mem_cons.1 hd with rfl | hd
      · simpa using hc
      · exact hword d hd

theorem mem_wordsOf {w cs : List Char} (h : w ∈ wordsOf cs) :
    w ≠ [] ∧ ∀ c ∈ w, isBlank c = false :=
  mem_wordsFrom (by simp) h

end SpanQuest.Text
