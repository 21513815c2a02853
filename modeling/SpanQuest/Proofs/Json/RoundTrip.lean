/-
  What is written reads back.

  `Reads v cs` says that a reader who comes to the characters `cs` takes them
  for the value `v`, whatever follows them, and one lemma for each kind of
  value tells how its text is put together from those of its parts.  Between
  the parts may stand any blanks, so that both printers follow from the same
  lemmas.

  * `isPlain`: the values that read back are those without doubles, without
    integers that are too long, and without two members of one name;
  * `read_render`, `read_renderIndented`: on one line and on lines of its own, a
    plain value reads back.
-/
import SpanQuest.Proofs.Json.Element

namespace SpanQuest.Json

open SpanQuest.Text

/-! ## Blanks and ends -/

/-- All the characters are blanks. -/
def Gap (cs : List Char) : Prop :=
  ∀ c ∈ cs, isGap c = true

theorem skipGap_append {gap : List Char} (hgap : Gap gap) {c : Char} (hc : isGap c = false)
    (rest : List Char) : skipGap (gap ++ c :: rest) = c :: rest := by
  unfold skipGap
  rw [List.dropWhile_append_of_pos hgap, List.dropWhile_cons_of_neg (by simp [hc])]

/-- A character that a number may go on with. -/
def goesOn (c : Char) : Bool :=
  isFigure c || c == '.' || c == 'e' || c == 'E'

/-- No number goes on with the characters. -/
def Ends (rest : List Char) : Prop :=
  ∀ c after, rest = c :: after → goesOn c = false

theorem ends_cons {c : Char} (h : goesOn c = false) (rest : List Char) : Ends (c :: rest) := by
  intro d after hd
  cases hd
  exact h

theorem goesOn_of_isGap {c : Char} (h : isGap c = true) : goesOn c = false := by
  simp only [isGap, Bool.or_eq_true, beq_iff_eq] at h
  rcases h with ((rfl | rfl) | rfl) | rfl <;> decide

theorem ends_gap {gap : List Char} (hgap : Gap gap) {c : Char} (hc : goesOn c = false)
    (rest : List Char) : Ends (gap ++ c :: rest) := by
  cases gap with
  | nil => exact ends_cons hc rest
  | cons d gap => exact ends_cons (goesOn_of_isGap (hgap d (List.mem_cons_self ..))) _

theorem ends_of_gap {gap : List Char} (hgap : Gap gap) : Ends gap := by
  rintro c after rfl
  exact goesOn_of_isGap (hgap c (List.mem_cons_self ..))

/-- A character that the text of a value may begin with: no blank, no bracket
    that closes an array, and no byte-order mark. -/
def opens (c : Char) : Bool :=
  !isGap c && c != ']' && c != '\ufeff'

/-- **The characters are a text of the value**: a reader who comes to them takes
    them for it and goes on after them.  Two steps for each of them are fuel
    enough. -/
structure Reads (v : Json) (cs : List Char) : Prop where
  begins : ∃ c after, cs = c :: after ∧ opens c = true
  reads : ∀ fuel rest, 2 * cs.length ≤ fuel → Ends rest →
    readValue fuel (cs ++ rest) = .ok (v, rest)

theorem exists_fuel {n fuel : Nat} (h : 0 < n) (hfuel : 2 * n ≤ fuel) : ∃ m, fuel = m + 1 :=
  ⟨fuel - 1, by omega⟩

/-! ## Words and texts -/

theorem reads_null : Reads null "null".toList := by
  refine ⟨⟨'n', _, rfl, by decide⟩, fun fuel rest hfuel _ => ?_⟩
  obtain ⟨m, rfl⟩ := exists_fuel (by decide) hfuel
  simp [readValue, readScalar]

theorem reads_bool (b : Bool) :
    Reads (bool b) (if b then "true".toList else "false".toList) := by
  cases b with
  | false =>
    refine ⟨⟨'f', _, rfl, by decide⟩, fun fuel rest hfuel _ => ?_⟩
    obtain ⟨m, rfl⟩ := exists_fuel (by decide) hfuel
    simp [readValue, readScalar]
  | true =>
    refine ⟨⟨'t', _, rfl, by decide⟩, fun fuel rest hfuel _ => ?_⟩
    obtain ⟨m, rfl⟩ := exists_fuel (by decide) hfuel
    simp [readValue, readScalar]

theorem reads_text (s : String) : Reads (text s) (renderText s) := by
  refine ⟨⟨'"', _, rfl, by decide⟩, fun fuel rest hfuel _ => ?_⟩
  obtain ⟨m, rfl⟩ := exists_fuel (by simp [renderText]) hfuel
  obtain ⟨after, hcs, hread⟩ := readText_renderText s rest
  rw [hcs, readValue]
  simp [hread]

/-! ## Integers -/

theorem isFigure_of_mem_decimalDigits {n : Nat} {c : Char} (h : c ∈ decimalDigits n) :
    isFigure c = true := by
  have hdigit := Nat.isDigit_of_mem_toDigits (by omega : 0 < 10) (by omega : 10 ≤ 10) h
  simpa [isFigure, Char.isDigit, Char.le_def] using hdigit

theorem decimalDigits_cases (n : Nat) :
    (n = 0 ∧ decimalDigits n = ['0']) ∨ ∃ c cs, decimalDigits n = c :: cs ∧ c ≠ '0' := by
  unfold decimalDigits
  induction n using Nat.strongRecOn with
  | ind n ih =>
    by_cases hn : n < 10
    · have all : ∀ m ∈ List.range 10, m = 0 ∨ m.digitChar ≠ '0' := by decide
      rw [Nat.toDigits_of_lt_base hn]
      rcases all n (List.mem_range.2 hn) with rfl | hc
      · exact Or.inl ⟨rfl, rfl⟩
      · exact Or.inr ⟨_, [], rfl, hc⟩
    · rw [Nat.toDigits_of_base_le (by omega) (by omega)]
      rcases ih (n / 10) (by omega) with ⟨hzero, -⟩ | ⟨c, cs, hcs, hc⟩
      · omega
      · exact Or.inr ⟨c, cs ++ [(n % 10).digitChar], by rw [hcs]; rfl, hc⟩

theorem exists_figure (n : Nat) :
    ∃ c cs, decimalDigits n = c :: cs ∧ isFigure c = true := by
  have hall : ∀ d ∈ decimalDigits n, isFigure d = true := fun d => isFigure_of_mem_decimalDigits
  rcases decimalDigits_cases n with ⟨-, h⟩ | ⟨c, cs, h, -⟩
  · exact ⟨'0', [], h, rfl⟩
  · exact ⟨c, cs, h, hall c (h ▸ List.mem_cons_self ..)⟩

theorem figuresValue_decimalDigits (n : Nat) : figuresValue (decimalDigits n) = n :=
  Nat.ofDigitChars_eq_foldl.symm.trans Nat.ofDigitChars_ten_toDigits

/-- A whole number that ends is an integer, unless it is too long. -/
theorem finishNumber_of_ends (negative : Bool) (whole : List Char) {rest : List Char}
    (hrest : Ends rest) :
    finishNumber negative whole rest =
      if Number.digitLimit < whole.length then .error (.tooManyDigits whole.length)
      else .ok (int (if negative then -(figuresValue whole : Int) else figuresValue whole), rest) := by
  have hfraction : readFraction rest = ([], rest) := by
    unfold readFraction
    split
    · next d after =>
      have := hrest '.' _ rfl
      simp [goesOn] at this
    · rfl
  have hexponent : readExponent rest = (none, rest) := by
    unfold readExponent
    split
    · rfl
    · next e after =>
      have he := hrest e after rfl
      simp only [goesOn, Bool.or_eq_false_iff] at he
      rw [if_neg (by simp [he])]
  unfold finishNumber
  rw [hfraction]
  dsimp only
  rw [hexponent]
  simp

theorem span_figures {digits rest : List Char} (hall : ∀ c ∈ digits, isFigure c = true)
    (hrest : Ends rest) : (digits ++ rest).takeWhile isFigure = digits ∧
      (digits ++ rest).dropWhile isFigure = rest := by
  rw [List.takeWhile_append_of_pos hall, List.dropWhile_append_of_pos hall]
  cases rest with
  | nil => simp
  | cons c after =>
    have hc : isFigure c = false := by
      have := hrest c after rfl
      simp only [goesOn, Bool.or_eq_false_iff] at this
      exact this.1.1.1
    simp [hc]

theorem readNumber_unsigned {c : Char} (hc : c ≠ '-') (cs : List Char) :
    readNumber (c :: cs) =
      if c == '0' then finishNumber false ['0'] cs
      else if isFigure c then
        finishNumber false ((c :: cs).takeWhile isFigure) ((c :: cs).dropWhile isFigure)
      else .error (.malformed .expectedValue (cs.length + 1)) := by
  unfold readNumber
  split
  next negative body hbody =>
  split at hbody
  · next after hafter =>
    injection hafter with hsign
    exact absurd hsign hc
  · cases hbody
    rfl

/-- The digits of a number are its whole part, also after a sign. -/
theorem readNumber_decimalDigits (n : Nat) {rest : List Char} (hrest : Ends rest) :
    readNumber (decimalDigits n ++ rest) = finishNumber false (decimalDigits n) rest ∧
      readNumber ('-' :: (decimalDigits n ++ rest)) = finishNumber true (decimalDigits n) rest := by
  rcases decimalDigits_cases n with ⟨rfl, hzero⟩ | ⟨c, cs, hcs, hc⟩
  · rw [hzero]
    constructor <;> simp [readNumber]
  · have hall : ∀ d ∈ decimalDigits n, isFigure d = true := fun d => isFigure_of_mem_decimalDigits
    obtain ⟨htake, hdrop⟩ := span_figures hall hrest
    rw [hcs] at hall htake hdrop ⊢
    have hfigure : isFigure c = true := hall c (List.mem_cons_self ..)
    have hminus : c ≠ '-' := by rintro rfl; cases hfigure
    simp only [List.cons_append] at htake hdrop ⊢
    constructor
    · rw [readNumber_unsigned hminus]
      simp only [beq_iff_eq, hc, if_false, hfigure, if_true, htake, hdrop]
    · simp only [readNumber, beq_iff_eq, hc, if_false, hfigure, if_true, htake, hdrop]

theorem readScalar_number {c : Char} (hc : isFigure c = true) (cs : List Char) :
    readScalar (c :: cs) = readNumber (c :: cs) ∧
      readScalar ('-' :: c :: cs) = readNumber ('-' :: c :: cs) := by
  constructor <;> unfold readScalar <;> split <;> first | rfl | next heq => cases heq <;> cases hc

theorem opens_of_isFigure {c : Char} (hc : isFigure c = true) : opens c = true := by
  have hne {d : Char} (hd : isFigure d = false) : c ≠ d := by
    rintro rfl
    rw [hc] at hd
    cases hd
  simp [opens, isGap, hne (d := ' ') rfl, hne (d := '\t') rfl, hne (d := '\n') rfl,
    hne (d := '\r') rfl, hne (d := ']') rfl, hne (d := '\ufeff') rfl]

theorem readValue_decimalDigits (fuel n : Nat) {rest : List Char} (hrest : Ends rest) :
    readValue (fuel + 1) (decimalDigits n ++ rest) = finishNumber false (decimalDigits n) rest ∧
      readValue (fuel + 1) ('-' :: (decimalDigits n ++ rest)) =
        finishNumber true (decimalDigits n) rest := by
  obtain ⟨hplus, hminus⟩ := readNumber_decimalDigits n hrest
  obtain ⟨c, cs, hcs, hfigure⟩ := exists_figure n
  have hquote : c ≠ '"' ∧ c ≠ '{' ∧ c ≠ '[' := by
    refine ⟨?_, ?_, ?_⟩ <;> (rintro rfl; cases hfigure)
  have hscalar := readScalar_number hfigure (cs ++ rest)
  rw [hcs] at hplus hminus ⊢
  constructor
  · simpa [readValue, hquote, hscalar.1] using hplus
  · simpa [readValue, hscalar.2] using hminus

theorem reads_int {n : Int} (hn : (decimalDigits n.natAbs).length ≤ Number.digitLimit) :
    Reads (int n) (renderInt n) := by
  obtain ⟨c, cs, hcs, hfigure⟩ := exists_figure n.natAbs
  have hfinish (negative : Bool) {rest : List Char} (hrest : Ends rest) :=
    finishNumber_of_ends negative (decimalDigits n.natAbs) hrest
  simp only [Nat.not_lt.2 hn, if_false, figuresValue_decimalDigits] at hfinish
  unfold renderInt
  split
  · next hneg =>
    refine ⟨⟨'-', _, rfl, by decide⟩, fun fuel rest hfuel hrest => ?_⟩
    obtain ⟨m, rfl⟩ := exists_fuel (by simp) hfuel
    rw [List.cons_append, (readValue_decimalDigits m n.natAbs hrest).2, hfinish true hrest]
    congr 3
    simp only [if_true]
    omega
  · next hneg =>
    refine ⟨⟨c, cs, hcs, opens_of_isFigure hfigure⟩, fun fuel rest hfuel hrest => ?_⟩
    obtain ⟨m, rfl⟩ := exists_fuel (by simp [hcs]) hfuel
    rw [(readValue_decimalDigits m n.natAbs hrest).1, hfinish false hrest]
    congr 3
    simp only [Bool.false_eq_true, if_false]
    omega

/-! ## Arrays and objects -/

theorem gap_nil : Gap [] := by
  intro c hc
  cases hc

theorem gap_space : Gap [' '] := by
  intro c hc
  rw [List.mem_singleton.1 hc]
  rfl

theorem Reads.skipGap_append {v : Json} {cs gap : List Char} (h : Reads v cs) (hgap : Gap gap)
    (rest : List Char) : skipGap (gap ++ (cs ++ rest)) = cs ++ rest := by
  obtain ⟨c, after, rfl, hopens⟩ := h.begins
  have hc : isGap c = false := by
    unfold opens at hopens
    cases hgap : isGap c with
    | false => rfl
    | true => simp [hgap] at hopens
  exact Json.skipGap_append hgap hc (after ++ rest)

/-- The characters `tail` are those after the first item of an array, where
    `vs` are the other items. -/
def ReadsItems (vs : List Json) (tail : List Char) : Prop :=
  ∀ (v : Json) (cs : List Char), Reads v cs → ∀ fuel seen gap rest, Gap gap →
    2 * (cs.length + tail.length) + 1 ≤ fuel →
    readItems fuel seen (cs ++ (tail ++ (gap ++ ']' :: rest))) =
      .ok (array (seen.reverse ++ v :: vs), rest)

theorem readsItems_nil : ReadsItems [] [] := by
  intro v cs hv fuel seen gap rest hgap hfuel
  obtain ⟨fuel, rfl⟩ : ∃ n, fuel = n + 1 := ⟨fuel - 1, by omega⟩
  have hless : 2 * cs.length ≤ fuel := by
    simp only [List.length_nil] at hfuel
    omega
  rw [List.nil_append, readItems_step, hv.reads fuel _ hless (ends_gap hgap rfl rest)]
  dsimp only
  rw [readRest_close _ _ (skipGap_append hgap rfl rest), List.reverse_cons]

theorem readsItems_cons {v : Json} {vs : List Json} {before cs tail : List Char}
    (hbefore : Gap before) (hv : Reads v cs) (hvs : ReadsItems vs tail) :
    ReadsItems (v :: vs) (',' :: before ++ cs ++ tail) := by
  intro u ds hu fuel seen gap rest hgap hfuel
  obtain ⟨fuel, rfl⟩ : ∃ n, fuel = n + 1 := ⟨fuel - 1, by omega⟩
  simp only [List.cons_append, List.length_cons, List.append_assoc, List.length_append] at hfuel ⊢
  have hcomma := skipGap_append gap_nil (c := ',') rfl
    (before ++ (cs ++ (tail ++ (gap ++ ']' :: rest))))
  rw [List.nil_append] at hcomma
  rw [readItems_step, hu.reads fuel _ (by omega) (ends_cons rfl _)]
  dsimp only
  rw [readRest_comma _ _ (by decide) hcomma, hv.skipGap_append hbefore,
    hvs v cs hv fuel (u :: seen) gap rest hgap (by omega)]
  simp

theorem reads_array {v : Json} {vs : List Json} {before cs tail after : List Char}
    (hbefore : Gap before) (hafter : Gap after) (hv : Reads v cs) (hvs : ReadsItems vs tail) :
    Reads (array (v :: vs)) ('[' :: before ++ cs ++ tail ++ after ++ [']']) := by
  refine ⟨⟨'[', _, rfl, by decide⟩, fun fuel rest hfuel _ => ?_⟩
  obtain ⟨fuel, rfl⟩ := exists_fuel (by simp) hfuel
  simp only [List.cons_append, List.length_cons, List.append_assoc, List.length_append,
    List.nil_append] at hfuel ⊢
  have hitems := hvs v cs hv fuel [] after rest hafter (by omega)
  obtain ⟨c, ds, rfl, hopens⟩ := hv.begins
  have hc : c ≠ ']' := by rintro rfl; cases hopens
  simp only [readValue, hv.skipGap_append hbefore]
  simpa [hc] using hitems

theorem reads_array_nil : Reads (array []) ['[', ']'] := by
  refine ⟨⟨'[', _, rfl, by decide⟩, fun fuel rest hfuel _ => ?_⟩
  obtain ⟨m, rfl⟩ := exists_fuel (by simp) hfuel
  simp [readValue, skipGap, isGap]

/-- The characters `tail` are those after the first member of an object, where
    `ms` are the other members. -/
def ReadsMembers (ms : List (String × Json)) (tail : List Char) : Prop :=
  ∀ (k : String) (v : Json) (cs : List Char), Reads v cs → ∀ fuel seen gap rest, Gap gap →
    2 * (cs.length + tail.length) + 1 ≤ fuel →
    readMembers fuel seen (renderText k ++ ':' :: ' ' :: (cs ++ (tail ++ (gap ++ '}' :: rest)))) =
      .ok (object (Mapping.ofPairs (seen.reverse ++ (k, v) :: ms)), rest)

theorem readMember_member (k : String) {v : Json} {cs after : List Char} (hv : Reads v cs)
    (hafter : Ends after) {fuel : Nat} (hfuel : 2 * cs.length ≤ fuel) :
    readMember (readValue fuel) (renderText k ++ ':' :: ' ' :: (cs ++ after)) =
      .ok ((k, v), after) := by
  obtain ⟨text, htext, hread⟩ := readText_renderText k (':' :: ' ' :: (cs ++ after))
  have hcolon := skipGap_append gap_nil (c := ':') rfl (' ' :: (cs ++ after))
  have hvalue := hv.skipGap_append gap_space after
  rw [List.nil_append] at hcolon
  rw [List.singleton_append] at hvalue
  rw [htext, readMember]
  simp only [hread, hcolon, hvalue, hv.reads fuel after hfuel hafter]

theorem readsMembers_nil : ReadsMembers [] [] := by
  intro k v cs hv fuel seen gap rest hgap hfuel
  obtain ⟨fuel, rfl⟩ : ∃ n, fuel = n + 1 := ⟨fuel - 1, by omega⟩
  have hless : 2 * cs.length ≤ fuel := by
    simp only [List.length_nil] at hfuel
    omega
  rw [List.nil_append, readMembers_step, readMember_member k hv (ends_gap hgap rfl rest) hless]
  dsimp only
  rw [readRest_close _ _ (skipGap_append hgap rfl rest), List.reverse_cons]

theorem readsMembers_cons {k : String} {v : Json} {ms : List (String × Json)}
    {before cs tail : List Char} (hbefore : Gap before) (hv : Reads v cs)
    (hms : ReadsMembers ms tail) :
    ReadsMembers ((k, v) :: ms) (',' :: before ++ renderText k ++ ':' :: ' ' :: cs ++ tail) := by
  intro j u ds hu fuel seen gap rest hgap hfuel
  obtain ⟨fuel, rfl⟩ : ∃ n, fuel = n + 1 := ⟨fuel - 1, by omega⟩
  simp only [List.cons_append, List.length_cons, List.append_assoc, List.length_append] at hfuel ⊢
  have hcomma := skipGap_append gap_nil (c := ',') rfl
    (before ++ (renderText k ++ ':' :: ' ' :: (cs ++ (tail ++ (gap ++ '}' :: rest)))))
  rw [List.nil_append] at hcomma
  rw [readMembers_step, readMember_member j hu (ends_cons rfl _) (by omega)]
  dsimp only
  rw [readRest_comma _ _ (by decide) hcomma, (reads_text k).skipGap_append hbefore,
    hms k v cs hv fuel ((j, u) :: seen) gap rest hgap (by omega)]
  simp

theorem reads_object {k : String} {v : Json} {ms : List (String × Json)}
    {before cs tail after : List Char} (hbefore : Gap before) (hafter : Gap after)
    (hv : Reads v cs) (hms : ReadsMembers ms tail) (hnodup : (Mapping.keys ((k, v) :: ms)).Nodup) :
    Reads (object ((k, v) :: ms))
      ('{' :: before ++ renderText k ++ ':' :: ' ' :: cs ++ tail ++ after ++ ['}']) := by
  refine ⟨⟨'{', _, rfl, by decide⟩, fun fuel rest hfuel _ => ?_⟩
  obtain ⟨fuel, rfl⟩ := exists_fuel (by simp) hfuel
  simp only [List.cons_append, List.length_cons, List.append_assoc, List.length_append,
    List.nil_append] at hfuel ⊢
  have hmembers := hms k v cs hv fuel [] after rest hafter (by omega)
  rw [List.reverse_nil, List.nil_append, Mapping.ofPairs_of_nodup hnodup] at hmembers
  simp only [readValue, (reads_text k).skipGap_append hbefore]
  simpa [renderText] using hmembers

theorem reads_object_nil : Reads (object []) ['{', '}'] := by
  refine ⟨⟨'{', _, rfl, by decide⟩, fun fuel rest hfuel _ => ?_⟩
  obtain ⟨m, rfl⟩ := exists_fuel (by simp) hfuel
  simp [readValue, skipGap, isGap]

/-! ## Plain values -/

mutual

/-- A value that reads back: no number in it is a double or too long, and no two
    members of an object have one name. -/
def isPlain : Json → Bool
  | double _ => false
  | int n => (decimalDigits n.natAbs).length ≤ Number.digitLimit
  | array items => allPlain items
  | object members => (Mapping.keys members).Nodup && membersPlain members
  | _ => true

/-- All items are plain. -/
def allPlain : List Json → Bool
  | [] => true
  | v :: vs => v.isPlain && allPlain vs

/-- The values of all members are plain. -/
def membersPlain : List (String × Json) → Bool
  | [] => true
  | (_, v) :: ms => v.isPlain && membersPlain ms

end

mutual

theorem reads_renderChars : ∀ v : Json, v.isPlain = true → Reads v (renderChars v)
  | null, _ => reads_null
  | bool b, _ => by
    rw [renderChars]
    exact reads_bool b
  | int n, h => by
    rw [renderChars]
    exact reads_int (by simpa [isPlain] using h)
  | text s, _ => by
    rw [renderChars]
    exact reads_text s
  | array [], _ => by
    rw [renderChars]
    exact reads_array_nil
  | array (v :: vs), h => by
    simp only [isPlain, allPlain, Bool.and_eq_true] at h
    simpa [renderChars] using
      reads_array gap_nil gap_nil (reads_renderChars v h.1) (readsItems_renderItems vs h.2)
  | object [], _ => by
    rw [renderChars]
    exact reads_object_nil
  | object ((k, v) :: ms), h => by
    simp only [isPlain, membersPlain, Bool.and_eq_true, decide_eq_true_eq] at h
    simpa [renderChars] using
      reads_object gap_nil gap_nil (reads_renderChars v h.2.1) (readsMembers_renderMembers ms h.2.2)
        h.1

theorem readsItems_renderItems : ∀ vs : List Json, allPlain vs = true →
    ReadsItems vs (renderItems vs)
  | [], _ => by
    rw [renderItems]
    exact readsItems_nil
  | v :: vs, h => by
    simp only [allPlain, Bool.and_eq_true] at h
    simpa [renderItems] using
      readsItems_cons gap_space (reads_renderChars v h.1) (readsItems_renderItems vs h.2)

theorem readsMembers_renderMembers : ∀ ms : List (String × Json), membersPlain ms = true →
    ReadsMembers ms (renderMembers ms)
  | [], _ => by
    rw [renderMembers]
    exact readsMembers_nil
  | (k, v) :: ms, h => by
    simp only [membersPlain, Bool.and_eq_true] at h
    simpa [renderMembers] using
      readsMembers_cons gap_space (reads_renderChars v h.1) (readsMembers_renderMembers ms h.2)

end

theorem gap_newLine (depth : Nat) : Gap (newLine depth) := by
  intro c hc
  simp only [newLine, List.mem_cons, List.mem_replicate] at hc
  rcases hc with rfl | ⟨-, rfl⟩ <;> rfl

mutual

theorem reads_indentChars (depth : Nat) : ∀ v : Json, v.isPlain = true →
    Reads v (indentChars depth v)
  | null, _ => by
    rw [indentChars]
    exact reads_null
  | bool b, _ => by
    rw [indentChars]
    exact reads_bool b
  | int n, h => by
    rw [indentChars]
    exact reads_int (by simpa [isPlain] using h)
  | text s, _ => by
    rw [indentChars]
    exact reads_text s
  | array [], _ => by
    rw [indentChars]
    exact reads_array_nil
  | array (v :: vs), h => by
    simp only [isPlain, allPlain, Bool.and_eq_true] at h
    simpa [indentChars] using
      reads_array (gap_newLine (depth + 1)) (gap_newLine depth) (reads_indentChars (depth + 1) v h.1)
        (readsItems_indentItems (depth + 1) vs h.2)
  | object [], _ => by
    rw [indentChars]
    exact reads_object_nil
  | object ((k, v) :: ms), h => by
    simp only [isPlain, membersPlain, Bool.and_eq_true, decide_eq_true_eq] at h
    simpa [indentChars] using
      reads_object (gap_newLine (depth + 1)) (gap_newLine depth)
        (reads_indentChars (depth + 1) v h.2.1) (readsMembers_indentMembers (depth + 1) ms h.2.2) h.1

theorem readsItems_indentItems (depth : Nat) : ∀ vs : List Json, allPlain vs = true →
    ReadsItems vs (indentItems depth vs)
  | [], _ => by
    rw [indentItems]
    exact readsItems_nil
  | v :: vs, h => by
    simp only [allPlain, Bool.and_eq_true] at h
    simpa [indentItems] using
      readsItems_cons (gap_newLine depth) (reads_indentChars depth v h.1)
        (readsItems_indentItems depth vs h.2)

theorem readsMembers_indentMembers (depth : Nat) : ∀ ms : List (String × Json),
    membersPlain ms = true → ReadsMembers ms (indentMembers depth ms)
  | [], _ => by
    rw [indentMembers]
    exact readsMembers_nil
  | (k, v) :: ms, h => by
    simp only [membersPlain, Bool.and_eq_true] at h
    simpa [indentMembers] using
      readsMembers_cons (gap_newLine depth) (reads_indentChars depth v h.1)
        (readsMembers_indentMembers depth ms h.2)

end

/-! ## Whole texts -/

theorem Reads.readChars_append {v : Json} {cs gap : List Char} (h : Reads v cs) (hgap : Gap gap) :
    readChars (cs ++ gap) = .ok v := by
  have hskip : skipGap (cs ++ gap) = cs ++ gap := h.skipGap_append gap_nil gap
  have hread := h.reads (2 * (cs ++ gap).length + 2) gap (by simp only [List.length_append]; omega)
    (ends_of_gap hgap)
  have hend : skipGap gap = [] := by
    have hdrop : (gap ++ []).dropWhile isGap = [].dropWhile isGap :=
      List.dropWhile_append_of_pos hgap
    simpa [skipGap] using hdrop
  unfold Json.readChars
  rw [hskip, hread]
  dsimp only
  rw [hend]

theorem Reads.read_append {v : Json} {cs gap : List Char} (h : Reads v cs) (hgap : Gap gap) :
    Json.read (String.ofList (cs ++ gap)) = .ok v := by
  have hread := h.readChars_append hgap
  obtain ⟨c, after, rfl, hopens⟩ := h.begins
  have hmark : c ≠ '\ufeff' := by rintro rfl; cases hopens
  unfold Json.read
  rw [String.toList_ofList]
  dsimp only
  split
  · next rest hrest =>
    injection hrest with hmark'
    exact absurd hmark' hmark
  · rw [hread]
    rfl

theorem Reads.readChars {v : Json} {cs : List Char} (h : Reads v cs) : readChars cs = .ok v := by
  have hread := h.readChars_append gap_nil
  rwa [List.append_nil] at hread

theorem Reads.read {v : Json} {cs : List Char} (h : Reads v cs) :
    Json.read (String.ofList cs) = .ok v := by
  have hread := h.read_append gap_nil
  rwa [List.append_nil] at hread

/-- **A plain value on one line reads back.** -/
theorem read_render {v : Json} (h : v.isPlain = true) : Json.read v.render = .ok v :=
  (reads_renderChars v h).read

/-- **A plain value on lines of its own reads back.** -/
theorem read_renderIndented {v : Json} (h : v.isPlain = true) :
    Json.read v.renderIndented = .ok v :=
  (reads_indentChars 0 v h).read

end SpanQuest.Json
