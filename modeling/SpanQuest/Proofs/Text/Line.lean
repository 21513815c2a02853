/-
  The line of a text.

  A text is words with blanks around them, and its line is the words, one space
  apart.  A line has no blanks but single spaces, none of them at its front; what
  is such a line, and does not end in a space, is its own line.  So an excerpt,
  which is a line, is its own excerpt.

  * `wordsOf_eq_iff`: the words of a text are its runs of ink (`Worded`);
  * `oneLine_flatten`, `flatten_eq_self`: what the line of a text looks like, and
    that there is nothing left to flatten;
  * `isExcerpt_excerptChars`, `excerptChars_excerptChars`: the same of excerpts.
-/
import Mathlib.Data.List.Chain
import SpanQuest.Proofs.Text.Ends
import SpanQuest.Text.Excerpt

namespace SpanQuest.Text

/-! ## Words -/

/-- A word has characters, and none of them is blank. -/
structure IsWord (w : List Char) : Prop where
  ne_nil : w ≠ []
  ink : ∀ c ∈ w, isBlank c = false

/-- **The text is made of the words**: blanks may stand before each of them and at
    the end, and after each of them the text ends or a blank stands. -/
inductive Worded : List Char → List (List Char) → Prop where
  | blanks {gap : List Char} (hgap : ∀ c ∈ gap, isBlank c = true) : Worded gap []
  | word {gap w rest : List Char} {ws : List (List Char)} (hgap : ∀ c ∈ gap, isBlank c = true)
      (hw : IsWord w) (hrest : ∀ c, rest.head? = some c → isBlank c = true) (h : Worded rest ws) :
      Worded (gap ++ (w ++ rest)) (w :: ws)

theorem exists_worded (cs : List Char) : ∃ ws, Worded cs ws := by
  induction cs with
  | nil => exact ⟨[], .blanks (by simp)⟩
  | cons c cs ih =>
    obtain ⟨ws, h⟩ := ih
    by_cases hc : isBlank c = true
    · cases h with
      | blanks hgap => exact ⟨[], .blanks (List.forall_mem_cons.2 ⟨hc, hgap⟩)⟩
      | word hgap hw hrest h =>
        exact ⟨_, .word (List.forall_mem_cons.2 ⟨hc, hgap⟩) hw hrest h⟩
    · -- a character of ink is a word of its own, or the first of the next word
      have hink : isBlank c = false := by simpa using hc
      have halone (hcs : ∀ b, cs.head? = some b → isBlank b = true) :
          ∃ ws, Worded (c :: cs) ws :=
        ⟨[c] :: ws, @Worded.word [] [c] cs ws (by simp) ⟨by simp, by simpa using hink⟩ hcs h⟩
      cases h with
      | blanks hgap => exact halone fun b hb => hgap b (List.mem_of_head? hb)
      | @word gap w rest ws hgap hw hrest h =>
        rcases gap with _ | ⟨b, gap⟩
        · exact ⟨(c :: w) :: ws, @Worded.word [] (c :: w) rest ws (by simp)
            ⟨by simp, List.forall_mem_cons.2 ⟨hink, hw.ink⟩⟩ hrest h⟩
        · exact halone fun d hd => hgap d (List.mem_of_head? hd)

theorem wordsFrom_blanks {gap : List Char} (hgap : ∀ c ∈ gap, isBlank c = true) (cs : List Char) :
    wordsFrom [] (gap ++ cs) = wordsFrom [] cs := by
  induction gap with
  | nil => rfl
  | cons c gap ih =>
    obtain ⟨hc, hgap⟩ := List.forall_mem_cons.1 hgap
    rw [List.cons_append, wordsFrom, if_pos hc]
    exact ih hgap

theorem wordsFrom_ink {w : List Char} (hw : ∀ c ∈ w, isBlank c = false) (word rest : List Char) :
    wordsFrom word (w ++ rest) = wordsFrom (w.reverse ++ word) rest := by
  induction w generalizing word with
  | nil => rfl
  | cons c w ih =>
    obtain ⟨hc, hw⟩ := List.forall_mem_cons.1 hw
    rw [List.cons_append, wordsFrom, if_neg (by simp [hc]), ih hw, List.reverse_cons,
      List.append_assoc, List.singleton_append]

theorem wordsFrom_end {word rest : List Char} (hword : word ≠ [])
    (hrest : ∀ c, rest.head? = some c → isBlank c = true) :
    wordsFrom word rest = word.reverse :: wordsFrom [] rest := by
  rcases rest with _ | ⟨c, rest⟩
  · simp [wordsFrom, hword]
  · simp [wordsFrom, hword, hrest c rfl]

theorem Worded.wordsOf_eq {cs : List Char} {ws : List (List Char)} (h : Worded cs ws) :
    wordsOf cs = ws := by
  unfold wordsOf
  induction h with
  | @blanks gap hgap =>
    rw [← List.append_nil gap, wordsFrom_blanks hgap]
    rfl
  | word hgap hw hrest _ ih =>
    rw [wordsFrom_blanks hgap, wordsFrom_ink hw.ink, List.append_nil,
      wordsFrom_end (by simpa using hw.ne_nil) hrest, List.reverse_reverse, ih]

/-- **The words of a text are its runs of ink.** -/
theorem wordsOf_eq_iff {cs : List Char} {ws : List (List Char)} :
    wordsOf cs = ws ↔ Worded cs ws := by
  constructor
  · rintro rfl
    obtain ⟨ws, h⟩ := exists_worded cs
    rwa [h.wordsOf_eq]
  · exact Worded.wordsOf_eq

/-! ## Lines -/

/-- **A line**: its only blanks are spaces, no two of them stand together, and none
    at the front. -/
structure OneLine (line : List Char) : Prop where
  blanks : ∀ c ∈ line, isBlank c = true → c = ' '
  single : line.IsChain fun a b => ¬ (a = ' ' ∧ b = ' ')
  first : line.head? ≠ some ' '

theorem isBlank_of_eq_space {c : Char} (h : c = ' ') : isBlank c = true := by
  rw [h]
  decide

theorem oneLine_of_ink {cs : List Char} (h : ∀ c ∈ cs, isBlank c = false) : OneLine cs where
  blanks c hc hblank := by simp [h c hc] at hblank
  single := by
    rw [List.isChain_iff_forall_rel_of_append_cons_cons]
    rintro a b before after rfl ⟨ha, -⟩
    have hink := h a (by simp)
    rw [isBlank_of_eq_space ha] at hink
    cases hink
  first hfirst := by
    have hink := h ' ' (List.mem_of_head? hfirst)
    exact absurd hink (by decide)

theorem OneLine.of_prefix {line front : List Char} (h : OneLine line) (hfront : front <+: line) :
    OneLine front where
  blanks c hc := h.blanks c (hfront.subset hc)
  single := h.single.prefix hfront
  first hfirst := by
    obtain ⟨back, rfl⟩ := hfront
    exact h.first (by rw [List.head?_append, hfirst, Option.some_or])

theorem OneLine.after_space {front line : List Char} (h : OneLine (front ++ ' ' :: line)) :
    OneLine line where
  blanks c hc := h.blanks c (by simp [hc])
  single := h.single.suffix ⟨front ++ [' '], by simp⟩
  first hfirst :=
    (List.isChain_cons.1 (List.isChain_append.1 h.single).2.1).1 ' ' hfirst ⟨rfl, rfl⟩

/-- Lines make a line: there is no space at the front of the second. -/
theorem OneLine.append {line line' : List Char} (h : OneLine line) (h' : OneLine line') :
    OneLine (line ++ line') where
  blanks c hc := (List.mem_append.1 hc).elim (h.blanks c) (h'.blanks c)
  single := by
    refine List.isChain_append.2 ⟨h.single, h'.single, ?_⟩
    rintro a - b hb ⟨-, rfl⟩
    exact h'.first hb
  first hfirst := by
    rw [List.head?_append, Option.or_eq_some_iff] at hfirst
    rcases hfirst with hfirst | ⟨-, hfirst⟩
    · exact h.first hfirst
    · exact h'.first hfirst

theorem OneLine.head_ink {line : List Char} (h : OneLine line) {c : Char}
    (hc : line.head? = some c) : isBlank c = false := by
  by_contra hblank
  have hspace := h.blanks c (List.mem_of_head? hc) (by simpa using hblank)
  exact h.first (hspace ▸ hc)

theorem IsWord.oneLine_snoc {w : List Char} (hw : IsWord w) : OneLine (w ++ [' ']) where
  blanks c hc hblank := by
    rcases List.mem_append.1 hc with hc | hc
    · simp [hw.ink c hc] at hblank
    · exact List.mem_singleton.1 hc
  single := by
    refine List.isChain_append.2 ⟨(oneLine_of_ink hw.ink).single, List.isChain_singleton _, ?_⟩
    rintro a ha - - ⟨rfl, -⟩
    exact absurd (hw.ink ' ' (List.mem_of_getLast? ha)) (by decide)
  first hfirst := by
    rw [List.head?_append_of_ne_nil _ hw.ne_nil] at hfirst
    exact (oneLine_of_ink hw.ink).first hfirst

theorem IsWord.getLast?_ne {w : List Char} (hw : IsWord w) : w.getLast? ≠ some ' ' := fun h =>
  absurd (hw.ink ' ' (List.mem_of_getLast? h)) (by decide)

theorem intercalate_ne_nil {w : List Char} (hw : w ≠ []) (ws : List (List Char)) :
    [' '].intercalate (w :: ws) ≠ [] := by
  rcases ws with _ | ⟨w', ws⟩
  · rwa [List.intercalate_singleton]
  · simp [List.intercalate_cons_cons]

/-- **Words with a space between each two are a line** that does not end in a space. -/
theorem oneLine_intercalate {ws : List (List Char)} (h : ∀ w ∈ ws, IsWord w) :
    OneLine ([' '].intercalate ws) ∧ ([' '].intercalate ws).getLast? ≠ some ' ' := by
  induction ws with
  | nil => exact ⟨oneLine_of_ink (by simp [List.intercalate]), by simp [List.intercalate]⟩
  | cons w ws ih =>
    obtain ⟨hw, hws⟩ := List.forall_mem_cons.1 h
    rcases ws with _ | ⟨w', ws⟩
    · rw [List.intercalate_singleton]
      exact ⟨oneLine_of_ink hw.ink, hw.getLast?_ne⟩
    · obtain ⟨hline, hlast⟩ := ih hws
      have hne := intercalate_ne_nil (hws w' (List.mem_cons_self ..)).ne_nil ws
      rw [List.intercalate_cons_cons, List.getLast?_append_of_ne_nil _ hne]
      exact ⟨hw.oneLine_snoc.append hline, hlast⟩

theorem flatten_eq {cs : List Char} {ws : List (List Char)} (h : Worded cs ws) :
    flatten cs = [' '].intercalate ws := by
  rw [flatten, h.wordsOf_eq]
  rfl

/-- **The line of a text is one**, and does not end in a space. -/
theorem oneLine_flatten (cs : List Char) :
    OneLine (flatten cs) ∧ (flatten cs).getLast? ≠ some ' ' :=
  oneLine_intercalate fun _ hw => ⟨(mem_wordsOf hw).1, (mem_wordsOf hw).2⟩

/-- A line after blanks is the words of the text, one space apart. -/
theorem Worded.intercalate_eq {cs : List Char} {ws : List (List Char)} (h : Worded cs ws)
    {gap line : List Char} (hcs : cs = gap ++ line) (hgap : ∀ c ∈ gap, isBlank c = true)
    (hline : OneLine line) (hlast : line.getLast? ≠ some ' ') : [' '].intercalate ws = line := by
  -- what follows a word of a line is a space and a line, so that the blanks go along
  induction h generalizing gap line with
  | blanks hblank =>
    rcases line with _ | ⟨c, line⟩
    · rfl
    · have hc := hblank c (by simp [hcs])
      rw [hline.head_ink rfl] at hc
      cases hc
  | @word gap' w rest ws hgap' hw hrest h ih =>
    have hstart : w ++ rest = line := by
      have hfront : ∀ c, (w ++ rest).head? = some c → isBlank c = false := by
        intro c hc
        rw [List.head?_append_of_ne_nil _ hw.ne_nil] at hc
        exact hw.ink c (List.mem_of_head? hc)
      rw [← dropWhile_append_of_first hgap' hfront, hcs,
        dropWhile_append_of_first hgap fun c => hline.head_ink]
    subst hstart
    rcases rest with _ | ⟨b, rest⟩
    · rw [← wordsOf_eq_iff] at h
      subst h
      simp [wordsOf, wordsFrom]
    · obtain rfl : b = ' ' := hline.blanks b (by simp) (hrest b rfl)
      have hrest' : rest ≠ [] := by
        rintro rfl
        simp at hlast
      rw [List.getLast?_append_of_ne_nil _ (by simp), List.getLast?_cons_of_ne_nil hrest'] at hlast
      have hspace : ∀ c ∈ [' '], isBlank c = true := List.forall_mem_singleton.2 rfl
      have hwords := ih rfl hspace hline.after_space hlast
      rcases ws with _ | ⟨w', ws⟩
      · exact absurd hwords.symm hrest'
      · rw [List.intercalate_cons_cons, hwords]
        simp

/-- **There is nothing left to flatten in a line** that does not end in a space. -/
theorem flatten_eq_self {line : List Char} (h : OneLine line) (hlast : line.getLast? ≠ some ' ') :
    flatten line = line := by
  obtain ⟨ws, hws⟩ := exists_worded line
  rw [flatten_eq hws]
  exact hws.intercalate_eq (List.nil_append line).symm (by simp) h hlast

/-! ## Excerpts -/

section

variable {limit : Int} {cs : List Char}

/-- The mark at the end of a line that was cut. -/
def cutMark : List Char :=
  ['.', '.', '.']

theorem oneLine_cutMark : OneLine cutMark :=
  oneLine_of_ink fun c hc => by
    have hdot : c = '.' := by simpa [cutMark] using hc
    rw [hdot]
    decide

/-- **An excerpt within a limit**, of a text with the line `line`: the line itself
    where it fits, else as much of it as fits before the mark. -/
structure IsExcerpt (limit : Int) (line shown : List Char) : Prop where
  fits : (shown.length : Int) ≤ limit
  oneLine : OneLine shown
  whole : (line.length : Int) ≤ limit → shown = line
  cut : limit < line.length →
    ∃ front, front <+: line ∧ (front.length : Int) + 3 = limit ∧ shown = front ++ cutMark

theorem excerptChars_of_le (h : ((flatten cs).length : Int) ≤ limit) :
    excerptChars limit cs = flatten cs :=
  if_pos h

theorem excerptChars_of_lt (hlimit : 3 ≤ limit) (h : limit < (flatten cs).length) :
    excerptChars limit cs = (flatten cs).take (limit - 3).toNat ++ cutMark := by
  have hcut : 0 ≤ limit - 3 := by omega
  rw [excerptChars]
  simp only [Int.not_le.2 h, if_false, front_of_nonneg hcut, cutMark]

theorem oneLine_excerptChars (hlimit : 3 ≤ limit) (cs : List Char) :
    OneLine (excerptChars limit cs) ∧ (excerptChars limit cs).getLast? ≠ some ' ' := by
  obtain ⟨hline, hlast⟩ := oneLine_flatten cs
  by_cases h : ((flatten cs).length : Int) ≤ limit
  · rw [excerptChars_of_le h]
    exact ⟨hline, hlast⟩
  · rw [excerptChars_of_lt hlimit (Int.not_le.1 h), List.getLast?_append_of_ne_nil _ (by decide)]
    exact ⟨(hline.of_prefix (List.take_prefix _ _)).append oneLine_cutMark, by decide⟩

/-- **The excerpt of a text** is one of its line. -/
theorem isExcerpt_excerptChars (hlimit : 3 ≤ limit) (cs : List Char) :
    IsExcerpt limit (flatten cs) (excerptChars limit cs) where
  fits := length_excerptChars_le hlimit cs
  oneLine := (oneLine_excerptChars hlimit cs).1
  whole := excerptChars_of_le
  cut h := by
    refine ⟨_, List.take_prefix _ _, ?_, excerptChars_of_lt hlimit h⟩
    rw [List.length_take]
    omega

/-- **An excerpt is its own excerpt.** -/
theorem excerptChars_excerptChars (hlimit : 3 ≤ limit) (cs : List Char) :
    excerptChars limit (excerptChars limit cs) = excerptChars limit cs := by
  obtain ⟨hline, hlast⟩ := oneLine_excerptChars hlimit cs
  have hflat := flatten_eq_self hline hlast
  rw [excerptChars_of_le (by rw [hflat]; exact length_excerptChars_le hlimit cs), hflat]

end

end SpanQuest.Text
