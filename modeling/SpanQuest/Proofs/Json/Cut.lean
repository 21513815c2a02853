/-
  Texts that are cut off.

  What a reader makes of some characters it makes of them whatever follows
  them, unless it complains (`Keeps`); what follows must not go on a number.
  So no text of a value is the front of another one: where the text of a value
  is cut, what stands before the cut is malformed.

  * `valuesKeep`: the readers of values keep what they made;
  * `read_cut`: the front of the text of a value is malformed.
-/
import SpanQuest.Proofs.Json.RoundTrip

namespace SpanQuest.Json

open SpanQuest.Text

/-! ## What is kept -/

/-- A reader that comes to `r` alone comes to `r'` with the characters `more`
    after its own: to the same value and more characters after it, or to the
    same integer that is too long.  After a complaint it may come to anything. -/
inductive Keeps {α : Type} (more : List Char) : Reading α → Reading α → Prop where
  | value (v : α) (rest : List Char) : Keeps more (.ok (v, rest)) (.ok (v, rest ++ more))
  | tooLong (count : Nat) :
      Keeps more (.error (.tooManyDigits count)) (.error (.tooManyDigits count))
  | malformed (complaint : Complaint) (left : Nat) (r : Reading α) :
      Keeps more (.error (.malformed complaint left)) r

/-- The characters go on no number, and no sign is the first of them. -/
def Severs (more : List Char) : Prop :=
  ∃ c after, more = c :: after ∧ goesOn c = false ∧ c ≠ '+' ∧ c ≠ '-'

theorem Severs.ends {more : List Char} (h : Severs more) : Ends more := by
  obtain ⟨c, after, rfl, hc, -⟩ := h
  exact ends_cons hc after

/-- Blanks are all that there is, or they end at a character, where they end also
    with more after them. -/
theorem skipGap_append_cases (cs more : List Char) :
    (skipGap cs = [] ∧ skipGap (cs ++ more) = skipGap more) ∨
      ∃ c after, skipGap cs = c :: after ∧ skipGap (cs ++ more) = c :: (after ++ more) := by
  unfold skipGap
  rw [List.dropWhile_append]
  rcases cs.dropWhile isGap with _ | ⟨c, after⟩
  · exact Or.inl ⟨rfl, rfl⟩
  · exact Or.inr ⟨c, after, rfl, rfl⟩

variable {more : List Char}

/-! ## Texts -/

/-- A text that goes on with the characters is not closed. -/
def Unclosed (cs : List Char) : Prop :=
  ∀ start fuel seen, ∃ complaint left,
    readTextFrom start fuel seen cs = .error (.malformed complaint left)

theorem unclosed_nil : Unclosed [] := by
  intro start fuel seen
  cases fuel with
  | zero => exact ⟨_, _, rfl⟩
  | succ fuel => exact ⟨_, _, rfl⟩

/-- An escape that is cut off is not followed by a quote. -/
theorem unclosed_escape {cs : List Char} (h : ∀ start, ∃ complaint left,
    readEscape start cs = .error (.malformed complaint left)) : Unclosed ('\\' :: cs) := by
  intro start fuel seen
  cases fuel with
  | zero => exact ⟨_, _, rfl⟩
  | succ fuel =>
    obtain ⟨complaint, left, hread⟩ := h start
    refine ⟨complaint, left, ?_⟩
    rw [readTextFrom, hread]
    rfl

theorem keeps_readLowHalf (high : Nat) (cs more : List Char) :
    (∃ c, readLowHalf high cs = .ok (c, cs) ∧ Unclosed cs) ∨
      Keeps more (readLowHalf high cs) (readLowHalf high (cs ++ more)) := by
  rcases cs with _ | ⟨x, cs⟩
  · exact Or.inl ⟨_, rfl, unclosed_nil⟩
  by_cases hx : x = '\\'
  case neg => exact Or.inr (by simpa [readLowHalf, hx] using Keeps.value (charOf high) (x :: cs))
  subst hx
  rcases cs with _ | ⟨y, cs⟩
  · exact Or.inl ⟨_, rfl, unclosed_escape fun start => ⟨_, _, rfl⟩⟩
  by_cases hy : y = 'u'
  case neg =>
    exact Or.inr (by simpa [readLowHalf, hy] using Keeps.value (charOf high) ('\\' :: y :: cs))
  subst hy
  -- fewer than five characters after the letter are too few for an escape
  rcases cs with _ | ⟨a, _ | ⟨b, _ | ⟨c, _ | ⟨d, _ | ⟨e, cs⟩⟩⟩⟩⟩
  case cons.cons.cons.cons.cons =>
    refine Or.inr ?_
    simp only [List.cons_append, readLowHalf]
    split
    · exact .malformed _ _ _
    · split
      · exact .value _ (e :: cs)
      · exact .value _ ('\\' :: 'u' :: a :: b :: c :: d :: e :: cs)
  all_goals exact Or.inl ⟨_, rfl, unclosed_escape fun start => ⟨_, _, rfl⟩⟩

/-- An escape is kept, unless the text is not closed after it. -/
def KeepsEscape (more : List Char) (r r' : Reading Char) : Prop :=
  (∃ c rest, r = .ok (c, rest) ∧ Unclosed rest) ∨ Keeps more r r'

theorem keeps_readCodePoint (cs more : List Char) :
    KeepsEscape more (readCodePoint cs) (readCodePoint (cs ++ more)) := by
  rcases cs with _ | ⟨a, _ | ⟨b, _ | ⟨c, _ | ⟨d, _ | ⟨e, cs⟩⟩⟩⟩⟩
  case cons.cons.cons.cons.cons =>
    simp only [List.cons_append, readCodePoint]
    split
    · exact Or.inr (.malformed _ _ _)
    · split
      · rcases keeps_readLowHalf _ (e :: cs) more with ⟨x, hread, hopen⟩ | hkeeps
        · exact Or.inl ⟨x, _, hread, hopen⟩
        · exact Or.inr hkeeps
      · exact Or.inr (.value _ (e :: cs))
  all_goals exact Or.inr (.malformed _ _ _)

theorem keeps_readEscape (start start' : Nat) (cs more : List Char) :
    KeepsEscape more (readEscape start cs) (readEscape start' (cs ++ more)) := by
  rcases cs with _ | ⟨c, cs⟩
  · exact Or.inr (.malformed _ _ _)
  by_cases hc : c = 'u'
  · subst hc
    exact keeps_readCodePoint cs more
  · refine Or.inr ?_
    simp only [List.cons_append, readEscape]
    split
    · exact .value _ cs
    · exact .malformed _ _ _

theorem keeps_readTextFrom (start start' : Nat) {fuel fuel' : Nat} (hfuel : fuel ≤ fuel')
    (seen cs more : List Char) :
    Keeps more (readTextFrom start fuel seen cs) (readTextFrom start' fuel' seen (cs ++ more)) := by
  induction fuel generalizing fuel' seen cs with
  | zero => exact .malformed _ _ _
  | succ fuel ih =>
    obtain ⟨fuel', rfl⟩ : ∃ n, fuel' = n + 1 := ⟨fuel' - 1, by omega⟩
    have hless : fuel ≤ fuel' := by omega
    rcases cs with _ | ⟨c, rest⟩
    · exact .malformed _ _ _
    rw [List.cons_append, readTextFrom, readTextFrom]
    by_cases hquote : (c == '"') = true
    · rw [if_pos hquote, if_pos hquote]
      exact .value _ rest
    rw [if_neg hquote, if_neg hquote]
    by_cases hslash : (c == '\\') = true
    · rw [if_pos hslash, if_pos hslash]
      rcases keeps_readEscape start start' rest more with ⟨d, after, hread, hopen⟩ | hkeeps
      · obtain ⟨complaint, left, hopen⟩ := hopen start fuel (d :: seen)
        simp only [hread, hopen]
        exact .malformed _ _ _
      · generalize readEscape start rest = r at hkeeps
        generalize readEscape start' (rest ++ more) = r' at hkeeps
        cases hkeeps with
        | value d after => exact ih hless (d :: seen) after
        | tooLong count => exact .tooLong count
        | malformed complaint left => exact .malformed _ _ _
    rw [if_neg hslash, if_neg hslash]
    split
    · exact .malformed _ _ _
    · exact ih hless (c :: seen) rest

theorem keeps_readText (cs more : List Char) :
    Keeps more (readText cs) (readText (cs ++ more)) := by
  have hfuel : cs.length + 1 ≤ (cs ++ more).length + 1 := by simp
  have htext := keeps_readTextFrom (cs.length + 1) ((cs ++ more).length + 1) hfuel [] cs more
  unfold readText
  generalize readTextFrom (cs.length + 1) (cs.length + 1) [] cs = r at htext
  generalize readTextFrom _ _ [] (cs ++ more) = r' at htext
  cases htext with
  | value seen rest => exact .value _ rest
  | tooLong count => exact .tooLong count
  | malformed complaint left => exact .malformed _ _ _

/-! ## Numbers -/

theorem span_append (hmore : Ends more) (cs : List Char) :
    (cs ++ more).takeWhile isFigure = cs.takeWhile isFigure ∧
      (cs ++ more).dropWhile isFigure = cs.dropWhile isFigure ++ more := by
  induction cs with
  | nil =>
    have hnone : ∀ c ∈ ([] : List Char), isFigure c = true := by simp
    exact span_figures hnone hmore
  | cons c cs ih =>
    cases hc : isFigure c with
    | true => simpa [hc] using ih
    | false => simp [hc]

theorem readFraction_append (hmore : Severs more) (cs : List Char) :
    readFraction (cs ++ more) = ((readFraction cs).1, (readFraction cs).2 ++ more) := by
  obtain ⟨c, after, rfl, hc, -⟩ := id hmore
  simp only [goesOn, Bool.or_eq_false_iff, beq_eq_false_iff_ne] at hc
  rcases cs with _ | ⟨x, cs⟩
  · simp [readFraction, hc]
  by_cases hx : x = '.'
  case neg => simp [readFraction, hx]
  subst hx
  rcases cs with _ | ⟨y, cs⟩
  · simp [readFraction, hc]
  obtain ⟨htake, hdrop⟩ := span_append hmore.ends (y :: cs)
  rw [List.cons_append] at htake hdrop
  cases hy : isFigure y with
  | true => simp only [List.cons_append, readFraction, hy, if_true, htake, hdrop]
  | false => simp only [List.cons_append, readFraction, hy, Bool.false_eq_true, if_false]

theorem signed_append (hmore : Severs more) (cs : List Char) :
    Number.signed (cs ++ more) = ((Number.signed cs).1, (Number.signed cs).2 ++ more) := by
  obtain ⟨c, after, rfl, -, hplus, hminus⟩ := hmore
  rcases cs with _ | ⟨x, cs⟩
  · simp [Number.signed, hplus, hminus]
  · unfold Number.signed
    split <;> simp_all

theorem readExponent_append (hmore : Severs more) (cs : List Char) :
    readExponent (cs ++ more) = ((readExponent cs).1, (readExponent cs).2 ++ more) := by
  rcases cs with _ | ⟨x, cs⟩
  · obtain ⟨c, after, rfl, hc, -⟩ := hmore
    simp only [goesOn, Bool.or_eq_false_iff] at hc
    simp [readExponent, hc]
  · have hsigned := signed_append hmore cs
    obtain ⟨htake, hdrop⟩ := span_append hmore.ends (Number.signed cs).2
    simp only [List.cons_append, readExponent, hsigned, htake, hdrop]
    split
    · split <;> rfl
    · rfl

theorem keeps_finishNumber (hmore : Severs more) (negative : Bool) (whole rest : List Char) :
    Keeps more (finishNumber negative whole rest) (finishNumber negative whole (rest ++ more)) := by
  unfold finishNumber
  rw [readFraction_append hmore]
  dsimp only
  rw [readExponent_append hmore]
  dsimp only
  split
  · split
    · exact .tooLong _
    · exact .value _ _
  · exact .value _ _

theorem readNumber_figure {c : Char} (hc : isFigure c = true) (rest : List Char) :
    readNumber (c :: rest) = (if c == '0' then finishNumber false ['0'] rest
      else finishNumber false ((c :: rest).takeWhile isFigure) ((c :: rest).dropWhile isFigure)) ∧
    readNumber ('-' :: c :: rest) = (if c == '0' then finishNumber true ['0'] rest
      else finishNumber true ((c :: rest).takeWhile isFigure) ((c :: rest).dropWhile isFigure)) := by
  have hminus : c ≠ '-' := by
    rintro rfl
    cases hc
  constructor
  · rw [readNumber_unsigned hminus, if_pos hc]
  · simp only [readNumber, hc, if_true]

theorem readNumber_cases (cs : List Char) :
    (∃ complaint left, readNumber cs = .error (.malformed complaint left)) ∨
      ∃ c rest, isFigure c = true ∧ (cs = c :: rest ∨ cs = '-' :: c :: rest) := by
  have hzero {c : Char} (hc : isFigure c = false) : c ≠ '0' := by
    rintro rfl
    cases hc
  rcases cs with _ | ⟨x, cs⟩
  · exact Or.inl ⟨_, _, rfl⟩
  by_cases hx : x = '-'
  · subst hx
    rcases cs with _ | ⟨y, cs⟩
    · exact Or.inl ⟨_, _, rfl⟩
    cases hy : isFigure y with
    | true => exact Or.inr ⟨y, cs, hy, Or.inr rfl⟩
    | false => exact Or.inl ⟨.expectedValue, cs.length + 2, by simp [readNumber, hy, hzero hy]⟩
  · cases hfigure : isFigure x with
    | true => exact Or.inr ⟨x, cs, hfigure, Or.inl rfl⟩
    | false =>
      refine Or.inl ⟨.expectedValue, cs.length + 1, ?_⟩
      simp [readNumber_unsigned hx, hfigure, hzero hfigure]

theorem keeps_readNumber (hmore : Severs more) {c : Char} (hc : isFigure c = true)
    (rest : List Char) :
    Keeps more (readNumber (c :: rest)) (readNumber (c :: (rest ++ more))) ∧
      Keeps more (readNumber ('-' :: c :: rest)) (readNumber ('-' :: c :: (rest ++ more))) := by
  obtain ⟨hplus, hminus⟩ := readNumber_figure hc rest
  obtain ⟨hplus', hminus'⟩ := readNumber_figure hc (rest ++ more)
  obtain ⟨htake, hdrop⟩ := span_append hmore.ends (c :: rest)
  rw [List.cons_append] at htake hdrop
  rw [hplus, hminus, hplus', hminus', htake, hdrop]
  constructor
  · split
    · exact keeps_finishNumber hmore _ _ _
    · exact keeps_finishNumber hmore _ _ _
  · split
    · exact keeps_finishNumber hmore _ _ _
    · exact keeps_finishNumber hmore _ _ _

theorem keeps_readScalar (hmore : Severs more) (cs : List Char) :
    Keeps more (readScalar cs) (readScalar (cs ++ more)) := by
  rcases readNumber_cases cs with ⟨complaint, left, hnumber⟩ | ⟨c, rest, hc, rfl | rfl⟩
  · -- what is no number is a word, which stays one, or it is malformed
    conv => arg 2; unfold readScalar
    split
    case h_7 => exact hnumber ▸ .malformed _ _ _
    all_goals exact .value _ _
  · rw [(readScalar_number hc rest).1, List.cons_append, (readScalar_number hc (rest ++ more)).1]
    exact (keeps_readNumber hmore hc rest).1
  · rw [(readScalar_number hc rest).2, List.cons_append, List.cons_append,
      (readScalar_number hc (rest ++ more)).2]
    exact (keeps_readNumber hmore hc rest).2

/-! ## Values -/

/-- With so much fuel or more, the three readers of values keep what they made. -/
structure ValuesKeep (more : List Char) (fuel : Nat) : Prop where
  value : ∀ fuel' cs, fuel ≤ fuel' → Keeps more (readValue fuel cs) (readValue fuel' (cs ++ more))
  items : ∀ fuel' seen cs, fuel ≤ fuel' →
    Keeps more (readItems fuel seen cs) (readItems fuel' seen (cs ++ more))
  members : ∀ fuel' seen cs, fuel ≤ fuel' →
    Keeps more (readMembers fuel seen cs) (readMembers fuel' seen (cs ++ more))

variable {fuel fuel' : Nat}

theorem readValue_nil (fuel : Nat) :
    ∃ complaint left, readValue fuel [] = .error (.malformed complaint left) := by
  cases fuel with
  | zero => exact ⟨_, _, by rw [readValue]⟩
  | succ fuel => exact ⟨_, _, by rw [readValue]⟩

theorem readItems_nil (fuel : Nat) (seen : List Json) :
    ∃ complaint left, readItems fuel seen [] = .error (.malformed complaint left) := by
  cases fuel with
  | zero => exact ⟨_, _, by rw [readItems]⟩
  | succ fuel =>
    obtain ⟨complaint, left, hread⟩ := readValue_nil fuel
    exact ⟨complaint, left, by rw [readItems, hread]⟩

theorem readMembers_nil (fuel : Nat) (seen : List (String × Json)) :
    ∃ complaint left, readMembers fuel seen [] = .error (.malformed complaint left) := by
  cases fuel with
  | zero => exact ⟨_, _, by rw [readMembers]⟩
  | succ fuel => exact ⟨.expectedName, 0, by simp [readMembers]⟩

/-- A reader that goes on after blanks keeps what it made, if it refuses where
    nothing is left. -/
theorem keeps_skipGap {α : Type} {read read' : List Char → Reading α}
    (hnil : ∃ complaint left, read [] = .error (.malformed complaint left))
    (h : ∀ cs, Keeps more (read cs) (read' (cs ++ more))) (cs : List Char) :
    Keeps more (read (skipGap cs)) (read' (skipGap (cs ++ more))) := by
  rcases skipGap_append_cases cs more with ⟨hcs, -⟩ | ⟨c, after, hcs, hmore⟩
  · obtain ⟨complaint, left, hread⟩ := hnil
    rw [hcs, hread]
    exact .malformed _ _ _
  · rw [hcs, hmore]
    exact h (c :: after)

theorem ValuesKeep.readValue_succ (h : ValuesKeep more fuel) (hmore : Severs more)
    (hfuel : fuel ≤ fuel') (cs : List Char) :
    Keeps more (readValue (fuel + 1) cs) (readValue (fuel' + 1) (cs ++ more)) := by
  rcases cs with _ | ⟨c, rest⟩
  · exact .malformed _ _ _
  rw [List.cons_append, readValue, readValue]
  split
  · have htext := keeps_readText rest more
    generalize readText rest = r at htext
    generalize readText (rest ++ more) = r' at htext
    cases htext with
    | value s after => exact .value _ after
    | tooLong count => exact .tooLong count
    | malformed complaint left => exact .malformed _ _ _
  split
  · rcases skipGap_append_cases rest more with ⟨hrest, -⟩ | ⟨x, after, hrest, hmore'⟩
    · obtain ⟨complaint, left, hread⟩ := readMembers_nil fuel []
      simp only [hrest, hread]
      exact .malformed _ _ _
    · rw [hrest, hmore']
      by_cases hx : x = '}'
      · subst hx
        exact .value _ after
      · simpa [hx] using h.members fuel' [] (x :: after) hfuel
  split
  · rcases skipGap_append_cases rest more with ⟨hrest, -⟩ | ⟨x, after, hrest, hmore'⟩
    · obtain ⟨complaint, left, hread⟩ := readItems_nil fuel []
      simp only [hrest, hread]
      exact .malformed _ _ _
    · rw [hrest, hmore']
      by_cases hx : x = ']'
      · subst hx
        exact .value _ after
      · simpa [hx] using h.items fuel' [] (x :: after) hfuel
  · exact keeps_readScalar hmore (c :: rest)

/-- What follows an element is kept, if `read` keeps what it made and refuses where
    nothing is left. -/
theorem keeps_readRest (close : Char) (whole : Json) {read read' : List Char → Reading Json}
    (hnil : ∃ complaint left, read [] = .error (.malformed complaint left))
    (h : ∀ cs, Keeps more (read cs) (read' (cs ++ more))) (cs : List Char) :
    Keeps more (readRest close whole read cs) (readRest close whole read' (cs ++ more)) := by
  unfold readRest
  rcases skipGap_append_cases cs more with ⟨hcs, -⟩ | ⟨c, after, hcs, hmore⟩
  · rw [hcs]
    exact .malformed _ _ _
  rw [hcs, hmore]
  dsimp only
  split
  · exact .value _ after
  split
  · exact keeps_skipGap hnil h after
  · exact .malformed _ _ _

theorem ValuesKeep.member (h : ValuesKeep more fuel) (hfuel : fuel ≤ fuel') (cs : List Char) :
    Keeps more (readMember (readValue fuel) cs) (readMember (readValue fuel') (cs ++ more)) := by
  rcases cs with _ | ⟨c, rest⟩
  · exact .malformed _ _ _
  by_cases hquote : c = '"'
  case neg =>
    have hnone : readMember (readValue fuel) (c :: rest) =
        .error (.malformed .expectedName (rest.length + 1)) := by simp [readMember, hquote]
    exact hnone ▸ .malformed _ _ _
  subst hquote
  rw [List.cons_append, readMember, readMember]
  have htext := keeps_readText rest more
  generalize readText rest = r at htext
  generalize readText (rest ++ more) = r' at htext
  cases htext with
  | malformed complaint left => exact .malformed _ _ _
  | tooLong count => exact .tooLong count
  | value name afterName =>
    dsimp only
    rcases skipGap_append_cases afterName more with ⟨hname, -⟩ | ⟨x, afterColon, hname, hmore⟩
    · rw [hname]
      exact .malformed _ _ _
    rw [hname, hmore]
    by_cases hcolon : x = ':'
    case neg =>
      split
      · next heq => exact absurd (List.cons.inj heq).1 hcolon
      · exact .malformed _ _ _
    simp only [hcolon]
    have hvalue := keeps_skipGap (readValue_nil fuel) (fun cs => h.value fuel' cs hfuel) afterColon
    generalize readValue fuel (skipGap afterColon) = r at hvalue
    generalize readValue fuel' (skipGap (afterColon ++ more)) = r' at hvalue
    cases hvalue with
    | malformed complaint left => exact .malformed _ _ _
    | tooLong count => exact .tooLong count
    | value v afterValue => exact .value (name, v) afterValue

theorem ValuesKeep.readItems_succ (h : ValuesKeep more fuel) (hfuel : fuel ≤ fuel')
    (seen : List Json) (cs : List Char) :
    Keeps more (readItems (fuel + 1) seen cs) (readItems (fuel' + 1) seen (cs ++ more)) := by
  have hvalue := h.value fuel' cs hfuel
  rw [readItems_step, readItems_step]
  generalize readValue fuel cs = r at hvalue
  generalize readValue fuel' (cs ++ more) = r' at hvalue
  cases hvalue with
  | malformed complaint left => exact .malformed _ _ _
  | tooLong count => exact .tooLong count
  | value v rest =>
    exact keeps_readRest _ _ (readItems_nil fuel _) (fun cs => h.items fuel' _ cs hfuel) rest

theorem ValuesKeep.readMembers_succ (h : ValuesKeep more fuel) (hfuel : fuel ≤ fuel')
    (seen : List (String × Json)) (cs : List Char) :
    Keeps more (readMembers (fuel + 1) seen cs) (readMembers (fuel' + 1) seen (cs ++ more)) := by
  have hmember := h.member hfuel cs
  rw [readMembers_step, readMembers_step]
  generalize readMember (readValue fuel) cs = r at hmember
  generalize readMember (readValue fuel') (cs ++ more) = r' at hmember
  cases hmember with
  | malformed complaint left => exact .malformed _ _ _
  | tooLong count => exact .tooLong count
  | value p rest =>
    exact keeps_readRest _ _ (readMembers_nil fuel _) (fun cs => h.members fuel' _ cs hfuel) rest

/-- **Readers of values keep what they made**, also with more fuel. -/
theorem valuesKeep (hmore : Severs more) (fuel : Nat) : ValuesKeep more fuel := by
  -- the readers call each other with less fuel, so that all three go together
  induction fuel with
  | zero => exact ⟨fun _ _ _ => .malformed _ _ _, fun _ _ _ _ => .malformed _ _ _,
      fun _ _ _ _ => .malformed _ _ _⟩
  | succ fuel ih =>
    have hpred {n : Nat} (hn : fuel + 1 ≤ n) : ∃ m, n = m + 1 ∧ fuel ≤ m :=
      ⟨n - 1, by omega, by omega⟩
    refine ⟨fun n cs hn => ?_, fun n seen cs hn => ?_, fun n seen cs hn => ?_⟩
    · obtain ⟨m, rfl, hm⟩ := hpred hn
      exact ih.readValue_succ hmore hm cs
    · obtain ⟨m, rfl, hm⟩ := hpred hn
      exact ih.readItems_succ hm seen cs
    · obtain ⟨m, rfl, hm⟩ := hpred hn
      exact ih.readMembers_succ hm seen cs

/-! ## Whole texts -/

/-- Characters before a cut are malformed, if they and those after it are the
    text of a value. -/
theorem readChars_cut {front : List Char} {v : Json} (hmore : Severs more)
    (hink : skipGap more ≠ []) (h : readChars (front ++ more) = .ok v) :
    ∃ complaint left, readChars front = .error (.malformed complaint left) := by
  have hfuel : 2 * front.length + 2 ≤ 2 * (front ++ more).length + 2 := by
    rw [List.length_append]
    omega
  have hkeeps := keeps_skipGap (readValue_nil _)
    (fun cs => (valuesKeep hmore _).value _ cs hfuel) front
  unfold readChars at h ⊢
  generalize readValue (2 * front.length + 2) (skipGap front) = r at hkeeps
  generalize readValue _ (skipGap (front ++ more)) = r' at hkeeps h
  cases hkeeps with
  | malformed complaint left => exact ⟨complaint, left, rfl⟩
  | tooLong count => cases h
  | value w rest =>
    dsimp only at h ⊢
    rcases skipGap_append_cases rest more with ⟨-, hall⟩ | ⟨c, after, hrest, -⟩
    · -- with nothing but blanks after the value, what follows the cut is left over
      rw [hall] at h
      split at h
      · next hnil => exact absurd hnil hink
      · cases h
    · rw [hrest]
      exact ⟨.extraData, _, rfl⟩

/-- **The front of the text of a value is malformed**, where the text is cut
    before something that goes on no number and is not blank. -/
theorem read_cut {front : List Char} {v : Json} (hmore : Severs more) (hink : skipGap more ≠ [])
    (h : Json.read (String.ofList (front ++ more)) = .ok v) :
    ∃ complaint place, Json.read (String.ofList front) = .error (.malformed complaint place) := by
  unfold Json.read at h ⊢
  rw [String.toList_ofList] at h ⊢
  dsimp only at h ⊢
  split
  · exact ⟨_, _, rfl⟩
  · next hmark =>
    have hread : readChars (front ++ more) = .ok v := by
      split at h
      · cases h
      · cases hchars : readChars (front ++ more) with
        | error stop => rw [hchars] at h; cases h
        | ok w => rw [hchars] at h; cases h; rfl
    obtain ⟨complaint, left, hfront⟩ := readChars_cut hmore hink hread
    rw [hfront]
    exact ⟨complaint, _, rfl⟩

end SpanQuest.Json
