/-
  What a text says as a lookback.

  Digits of any script, followed by the letter of a unit, with blanks around them,
  say so many units.  They are a lookback if they say at least one, and if that is
  a duration: one of less than a thousand million days.  But the digits are only
  read if they are not too many, and what is too long is not told like what is no
  lookback at all: it is a fault, and no failure of the configuration.

  * `Denotes`: the number that digits denote;
  * `Says`: what a text says as a lookback;
  * `Verdict`: what the text is read as;
  * `read_outcomes`: the text is read as just that, and it is a lookback or a failure
    of the configuration exactly if what it says is neither too many digits nor too
    long a time;
  * `read_overlongText`: texts that are neither.
-/
import Mathlib.Data.List.Induction
import SpanQuest.Proofs.Text.Ends
import SpanQuest.Search.Lookback

namespace SpanQuest

/-! ## Digits -/

namespace Text

variable {cs : List Char} {n : Nat}

/-- **The number that decimal digits denote**, the most significant digit first. -/
inductive Denotes : List Char → Nat → Prop where
  | digit {c : Char} {value : Nat} (hc : digitValue? c = some value) : Denotes [c] value
  | more {cs : List Char} {c : Char} {n value : Nat} (hcs : Denotes cs n)
      (hc : digitValue? c = some value) : Denotes (cs ++ [c]) (10 * n + value)

theorem digitsValue_snoc (cs : List Char) (c : Char) :
    digitsValue (cs ++ [c]) = 10 * digitsValue cs + (digitValue? c).getD 0 := by
  unfold digitsValue
  rw [List.foldl_append]
  rfl

theorem Denotes.digits (h : Denotes cs n) :
    cs ≠ [] ∧ (∀ c ∈ cs, isDigit c = true) ∧ digitsValue cs = n := by
  induction h with
  | @digit c value hc =>
    refine ⟨by simp, fun d hd => ?_, ?_⟩
    · rw [List.mem_singleton.1 hd, isDigit, hc]
      rfl
    · rw [← List.nil_append [c], digitsValue_snoc, hc]
      exact Nat.zero_add value
  | @more cs c n value hcs hc ih =>
    obtain ⟨-, hdigits, hvalue⟩ := ih
    refine ⟨by simp, fun d hd => ?_, ?_⟩
    · rcases List.mem_append.1 hd with hd | hd
      · exact hdigits d hd
      · rw [List.mem_singleton.1 hd, isDigit, hc]
        rfl
    · rw [digitsValue_snoc, hvalue, hc]
      rfl

theorem denotes_digitsValue (hne : cs ≠ []) (hdigits : ∀ c ∈ cs, isDigit c = true) :
    Denotes cs (digitsValue cs) := by
  induction cs using List.reverseRecOn with
  | nil => exact absurd rfl hne
  | append_singleton cs c ih =>
    obtain ⟨value, hc⟩ := Option.isSome_iff_exists.1 (hdigits c (by simp))
    rw [digitsValue_snoc, hc, Option.getD_some]
    rcases cs with _ | ⟨d, ds⟩
    · rw [show 10 * digitsValue [] + value = value from Nat.zero_add value]
      exact .digit hc
    · exact .more (ih (by simp) fun c hc => hdigits c (List.mem_append_left _ hc)) hc

end Text

/-! ## Texts -/

namespace LookbackUnit

theorem ofLetter?_eq_some_iff {c : Char} {u : LookbackUnit} :
    ofLetter? c = some u ↔ c = u.letter := by
  constructor
  · intro h
    unfold ofLetter? at h
    split at h
    · next hc => cases h; exact eq_of_beq hc
    split at h
    · next hc => cases h; exact eq_of_beq hc
    split at h
    · next hc => cases h; exact eq_of_beq hc
    split at h
    · next hc => cases h; exact eq_of_beq hc
    · cases h
  · rintro rfl
    exact ofLetter?_letter u

theorem isDigit_letter (u : LookbackUnit) : Text.isDigit u.letter = false := by
  cases u <;> rfl

end LookbackUnit

namespace Lookback

variable {given : String} {digits : List Char} {n : Nat} {unit : LookbackUnit}

/-- **What a text says as a lookback**: without the blanks around it, it is digits
    that denote a number, and the letter of a unit. -/
structure Says (given : String) (digits : List Char) (n : Nat) (unit : LookbackUnit) : Prop where
  spelled : Text.Stripped Text.isBlank given.toList (digits ++ [unit.letter])
  denotes : Text.Denotes digits n

/-- So many seconds are a duration: they are less than a thousand million days. -/
def IsDuration (seconds : Nat) : Prop :=
  seconds < 1000000000 * 86400

instance (seconds : Nat) : Decidable (IsDuration seconds) :=
  inferInstanceAs (Decidable (_ < _))

theorem isDuration_iff {seconds : Nat} : IsDuration seconds ↔ ¬ maxDays < seconds / 86400 := by
  unfold IsDuration maxDays
  omega

/-- **What a text is read as.** -/
inductive Verdict (given : String) : Except Trouble Lookback → Prop where
  | lookback {digits : List Char} {n : Nat} {unit : LookbackUnit} (h : Says given digits n unit)
      (hshort : digits.length ≤ Number.digitLimit) (hpos : 1 ≤ n)
      (hrange : IsDuration (n * unit.seconds)) : Verdict given (.ok ⟨n * unit.seconds, given⟩)
  | unsaid (h : ∀ digits n unit, ¬ Says given digits n unit) :
      Verdict given (.error (.failure (.badLookback given)))
  | zero {digits : List Char} {unit : LookbackUnit} (h : Says given digits 0 unit)
      (hshort : digits.length ≤ Number.digitLimit) :
      Verdict given (.error (.failure (.badLookback given)))
  | manyDigits {digits : List Char} {n : Nat} {unit : LookbackUnit}
      (h : Says given digits n unit) (hlong : Number.digitLimit < digits.length) :
      Verdict given (.error (.fault (.digitLimit digits.length)))
  | beyond {digits : List Char} {n : Nat} {unit : LookbackUnit} (h : Says given digits n unit)
      (hshort : digits.length ≤ Number.digitLimit) (hrange : ¬ IsDuration (n * unit.seconds)) :
      Verdict given (.error (.fault .durationRange))

theorem parts?_eq_some_iff {cs : List Char} :
    parts? cs = some (digits, unit) ↔
      digits ≠ [] ∧ (∀ c ∈ digits, Text.isDigit c = true) ∧ cs = digits ++ [unit.letter] := by
  constructor
  · intro h
    have hsplit := List.takeWhile_append_dropWhile (p := Text.isDigit) (l := cs)
    unfold parts? at h
    dsimp only at h
    split at h
    · next first rest c hdigits hrest =>
      obtain ⟨u, hu, hparts⟩ := Option.map_eq_some_iff.1 h
      cases hparts
      rw [LookbackUnit.ofLetter?_eq_some_iff.1 hu] at hrest
      refine ⟨by rw [hdigits]; simp, ?_, ?_⟩
      · exact fun d hd => List.all_eq_true.1 List.all_takeWhile d hd
      · rw [← hrest, hsplit]
    · cases h
  · rintro ⟨hne, hdigits, rfl⟩
    have hnot : ¬ Text.isDigit unit.letter = true := by simp [unit.isDigit_letter]
    obtain ⟨first, rest, rfl⟩ := List.exists_cons_of_ne_nil hne
    unfold parts?
    rw [List.takeWhile_append_of_pos hdigits, List.dropWhile_append_of_pos hdigits,
      List.takeWhile_cons_of_neg hnot, List.dropWhile_cons_of_neg hnot, List.append_nil]
    dsimp only
    rw [LookbackUnit.ofLetter?_letter]
    rfl

/-- **A text says what its parts are.** -/
theorem says_iff : Says given digits n unit ↔
    parts? (Text.trimChars given.toList) = some (digits, unit) ∧ Text.digitsValue digits = n := by
  constructor
  · rintro ⟨hspelled, hdenotes⟩
    obtain ⟨hne, hdigits, hvalue⟩ := hdenotes.digits
    exact ⟨parts?_eq_some_iff.2 ⟨hne, hdigits, Text.trimChars_eq_iff.2 hspelled⟩, hvalue⟩
  · rintro ⟨hparts, rfl⟩
    obtain ⟨hne, hdigits, hspelled⟩ := parts?_eq_some_iff.1 hparts
    exact ⟨Text.trimChars_eq_iff.1 hspelled, Text.denotes_digitsValue hne hdigits⟩

theorem Says.eq {digits' : List Char} {n' : Nat} {unit' : LookbackUnit}
    (h : Says given digits n unit) (h' : Says given digits' n' unit') :
    digits = digits' ∧ n = n' ∧ unit = unit' := by
  obtain ⟨hparts, rfl⟩ := says_iff.1 h
  obtain ⟨hparts', rfl⟩ := says_iff.1 h'
  cases hparts.symm.trans hparts'
  exact ⟨rfl, rfl, rfl⟩

theorem read_of_unsaid (h : ∀ digits n unit, ¬ Says given digits n unit) :
    read given = .error (.failure (.badLookback given)) := by
  unfold read
  rcases hparts : parts? (Text.trimChars given.toList) with _ | ⟨digits, unit⟩
  · rfl
  · exact absurd (says_iff.2 ⟨hparts, rfl⟩) (h digits _ unit)

theorem read_of_said (h : Says given digits n unit) :
    read given =
      if Number.digitLimit < digits.length then .error (.fault (.digitLimit digits.length))
      else if n = 0 then .error (.failure (.badLookback given))
      else if maxDays < n * unit.seconds / 86400 then .error (.fault .durationRange)
      else .ok ⟨n * unit.seconds, given⟩ := by
  obtain ⟨hparts, rfl⟩ := says_iff.1 h
  unfold read
  rw [hparts]

theorem verdict_read (given : String) : Verdict given (read given) := by
  by_cases hsaid : ∃ digits n unit, Says given digits n unit
  · obtain ⟨digits, n, unit, h⟩ := hsaid
    rw [read_of_said h]
    by_cases hlong : Number.digitLimit < digits.length
    · rw [if_pos hlong]
      exact .manyDigits h hlong
    rw [if_neg hlong]
    by_cases hzero : n = 0
    · subst hzero
      exact .zero h (Nat.not_lt.1 hlong)
    rw [if_neg hzero]
    by_cases hrange : maxDays < n * unit.seconds / 86400
    · rw [if_pos hrange]
      exact .beyond h (Nat.not_lt.1 hlong) fun hduration => isDuration_iff.1 hduration hrange
    · rw [if_neg hrange]
      exact .lookback h (Nat.not_lt.1 hlong) (Nat.pos_of_ne_zero hzero) (isDuration_iff.2 hrange)
  · have hnone : ∀ digits n unit, ¬ Says given digits n unit :=
      fun digits n unit h => hsaid ⟨digits, n, unit, h⟩
    rw [read_of_unsaid hnone]
    exact .unsaid hnone

theorem Verdict.read_eq {r : Except Trouble Lookback} (h : Verdict given r) : read given = r := by
  cases h with
  | lookback h hshort hpos hrange =>
    rw [read_of_said h, if_neg (Nat.not_lt.2 hshort), if_neg (Nat.ne_of_gt hpos),
      if_neg (isDuration_iff.1 hrange)]
  | unsaid h => exact read_of_unsaid h
  | zero h hshort => rw [read_of_said h, if_neg (Nat.not_lt.2 hshort), if_pos rfl]
  | manyDigits h hlong => rw [read_of_said h, if_pos hlong]
  | @beyond digits n unit h hshort hrange =>
    have hbeyond : maxDays < n * unit.seconds / 86400 :=
      not_not.1 fun hnot => hrange (isDuration_iff.2 hnot)
    have hpos : n ≠ 0 := by
      rintro rfl
      rw [Nat.zero_mul] at hbeyond
      exact absurd hbeyond (by decide)
    rw [read_of_said h, if_neg (Nat.not_lt.2 hshort), if_neg hpos, if_pos hbeyond]

/-- **What a text is read as.**  It is read as its verdict says, and in no other
    way.  It is a lookback or a failure of the configuration exactly if what it says
    is said in not too many digits and is a duration. -/
theorem read_outcomes (given : String) :
    (∀ r, read given = r ↔ Verdict given r) ∧
      (((∃ l, read given = .ok l) ∨ read given = .error (.failure (.badLookback given))) ↔
        ∀ digits n unit, Says given digits n unit →
          digits.length ≤ Number.digitLimit ∧ IsDuration (n * unit.seconds)) := by
  have hread : ∀ r, read given = r ↔ Verdict given r :=
    fun r => ⟨fun h => h ▸ verdict_read given, Verdict.read_eq⟩
  refine ⟨hread, ?_⟩
  have hverdict := verdict_read given
  generalize read given = r at hverdict
  -- only one thing is said, so that what holds of it holds of all
  cases hverdict with
  | lookback h hshort hpos hrange =>
    refine iff_of_true (Or.inl ⟨_, rfl⟩) fun digits n unit h' => ?_
    obtain ⟨rfl, rfl, rfl⟩ := h.eq h'
    exact ⟨hshort, hrange⟩
  | unsaid h => exact iff_of_true (Or.inr rfl) fun digits n unit h' => absurd h' (h digits n unit)
  | zero h hshort =>
    refine iff_of_true (Or.inr rfl) fun digits n unit h' => ?_
    obtain ⟨rfl, rfl, rfl⟩ := h.eq h'
    exact ⟨hshort, by unfold IsDuration; omega⟩
  | manyDigits h hlong =>
    refine iff_of_false (by simp) fun hall => ?_
    exact absurd (hall _ _ _ h).1 (Nat.not_le.2 hlong)
  | beyond h hshort hrange =>
    refine iff_of_false (by simp) fun hall => ?_
    exact hrange (hall _ _ _ h).2

/-- The digits of one, with zeros before it. -/
def padded (zeros : Nat) : List Char :=
  List.replicate zeros '0' ++ ['1']

theorem digitsValue_zeros (k : Nat) : Text.digitsValue (List.replicate k '0') = 0 := by
  induction k with
  | zero => rfl
  | succ k ih =>
    rw [List.replicate_succ', Text.digitsValue_snoc, ih]
    rfl

theorem length_padded (zeros : Nat) : (padded zeros).length = zeros + 1 := by
  simp [padded]

theorem says_padded (zeros : Nat) :
    Says (String.ofList (padded zeros ++ ['h'])) (padded zeros) 1 .hour := by
  refine ⟨?_, ?_⟩
  · rw [String.toList_ofList]
    refine ⟨⟨[], [], by simp [LookbackUnit.letter], by simp, by simp⟩, fun c hc => ?_,
      fun c hc => ?_⟩
    · cases zeros with
      | zero => cases hc; rfl
      | succ zeros =>
        unfold padded at hc
        rw [List.replicate_succ] at hc
        cases hc
        rfl
    · rw [List.getLast?_append] at hc
      cases hc
      rfl
  · have hvalue : Text.digitsValue (padded zeros) = 1 := by
      unfold padded
      rw [Text.digitsValue_snoc, digitsValue_zeros]
      rfl
    rw [← hvalue]
    refine Text.denotes_digitsValue (by simp [padded]) fun c hc => ?_
    rcases List.mem_append.1 hc with hc | hc
    · rw [List.eq_of_mem_replicate hc]
      rfl
    · rw [List.mem_singleton.1 hc]
      rfl

/-- **A thousand million days are no duration, and one hour with 4300 zeros before it
    has too many digits**: each is a fault, neither a lookback nor a failure of the
    configuration. -/
theorem read_overlongText :
    read "1000000000d" = .error (.fault .durationRange) ∧
      Says (String.ofList (padded 4300 ++ ['h'])) (padded 4300) 1 .hour ∧
      read (String.ofList (padded 4300 ++ ['h'])) = .error (.fault (.digitLimit 4301)) := by
  have hdays : Says "1000000000d" "1000000000".toList 1000000000 .day :=
    says_iff.2 ⟨by decide +kernel, by decide +kernel⟩
  have hlength : (padded 4300).length = 4301 := length_padded 4300
  have hpadded := says_padded 4300
  refine ⟨?_, hpadded, ?_⟩
  · exact (Verdict.beyond hdays (by decide) (by decide +kernel)).read_eq
  · rw [← hlength]
    exact (Verdict.manyDigits hpadded (by rw [hlength]; decide)).read_eq

end Lookback

end SpanQuest
