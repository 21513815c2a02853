/-
  How large the numbers are that are read.

  An integer that is read is short: it has no more digits than an integer may
  be written in, whether it stood in JSON, in a text or for a double, whose
  size is below `2 ^ 1024`.

  * `Short`: an integer that can be written and read again;
  * `inRange_ofRatio`, `inRange_ofDecimal`: what is rounded is a double in
    range;
  * `short_of_truncate`, `short_of_readInteger`, `short_historyMillis`,
    `short_searchMicros`: where integers come from they are short.
-/
import Mathlib.Algebra.Order.Field.Power
import Mathlib.Data.Rat.Cast.Order
import Mathlib.Tactic.Positivity
import Mathlib.Tactic.Ring
import SpanQuest.Number.Decimal
import SpanQuest.Number.Reading
import SpanQuest.Search.Moment

namespace SpanQuest

/-! ## Short integers -/

/-- **The integer has no more digits than one may be written in.** -/
def Short (n : Int) : Prop :=
  (decimalDigits n.natAbs).length ≤ Number.digitLimit

instance (n : Int) : Decidable (Short n) :=
  inferInstanceAs (Decidable (_ ≤ _))

theorem short_iff {n : Int} : Short n ↔ n.natAbs < 10 ^ Number.digitLimit :=
  Nat.length_toDigits_le_iff (by decide) (by decide)

theorem length_decimalDigits_pow (k : Nat) : (decimalDigits (10 ^ k)).length = k + 1 := by
  have hle : (decimalDigits (10 ^ k)).length ≤ k + 1 :=
    (Nat.length_toDigits_le_iff (by decide) (by omega)).2
      (Nat.pow_lt_pow_right (by decide) (by omega))
  rcases k with _ | k
  · rfl
  · have hlt : ¬ (decimalDigits (10 ^ (k + 1))).length ≤ k + 1 := fun h =>
      absurd ((Nat.length_toDigits_le_iff (by decide) (by omega)).1 h) (Nat.lt_irrefl _)
    omega

theorem not_short_pow {k : Nat} (h : Number.digitLimit ≤ k) : ¬ Short (10 ^ k : Nat) := by
  rw [Short, Int.natAbs_natCast, length_decimalDigits_pow]
  omega

theorem short_of_lt {k : Nat} {n : Int} (hk : k ≤ Number.digitLimit) (hn : n.natAbs < 2 ^ k) :
    Short n :=
  short_iff.2 <| calc
    n.natAbs < 2 ^ k := hn
    _ ≤ 10 ^ k := Nat.pow_le_pow_left (by decide) k
    _ ≤ 10 ^ Number.digitLimit := Nat.pow_le_pow_right (by decide) hk

/-! ## Doubles in range -/

/-- `2 ^ n`, as a factor above and below the line. -/
theorem cast_twoPower (n : Int) : ((twoPower n).1 : ℚ) = 2 ^ n * (twoPower n).2 := by
  unfold twoPower
  split
  · next h =>
    obtain ⟨k, rfl⟩ := Int.eq_ofNat_of_zero_le h
    simp
  · next h =>
    obtain ⟨k, rfl⟩ := Int.exists_eq_neg_ofNat (by omega : n ≤ 0)
    simp

theorem twoPower_pos (n : Int) : 0 < (twoPower n).1 ∧ 0 < (twoPower n).2 := by
  unfold twoPower
  split
  · exact ⟨Nat.pow_pos (by decide), Nat.one_pos⟩
  · exact ⟨Nat.one_pos, Nat.pow_pos (by decide)⟩

/-- A ratio is below `2 ^ n`, told in natural numbers and in fractions. -/
theorem lt_twoPower_iff (num den : Nat) (n : Int) :
    num * (twoPower n).2 < den * (twoPower n).1 ↔ (num : ℚ) < den * 2 ^ n := by
  have hpos : (0 : ℚ) < (twoPower n).2 := by exact_mod_cast (twoPower_pos n).2
  rw [← Nat.cast_lt (α := ℚ), Nat.cast_mul, Nat.cast_mul, cast_twoPower, ← mul_assoc]
  exact mul_lt_mul_iff_left₀ hpos

namespace Double

theorem lt_binaryOrder {num den : Nat} (hden : 0 < den) :
    (num : ℚ) < den * 2 ^ (binaryOrder num den + 1) := by
  unfold binaryOrder
  dsimp only
  split
  · have hnum : (num : ℚ) < 2 ^ (Nat.log2 num + 1) := by exact_mod_cast Nat.lt_log2_self
    have hlog : (2 : ℚ) ^ Nat.log2 den ≤ den := by exact_mod_cast Nat.log2_self_le hden.ne'
    calc (num : ℚ) < 2 ^ (Nat.log2 num + 1) := hnum
      _ = 2 ^ Nat.log2 den * 2 ^ ((Nat.log2 num : Int) - Nat.log2 den + 1) := by
        rw [← zpow_natCast, ← zpow_natCast, ← zpow_add₀ (by norm_num)]
        congr 1
        push_cast
        ring
      _ ≤ den * 2 ^ ((Nat.log2 num : Int) - Nat.log2 den + 1) := by gcongr
  · next h =>
    rw [sub_add_cancel, ← lt_twoPower_iff]
    exact Nat.lt_of_not_le h

/-- The units of a double are at most twice as many as one of full precision
    has, before the last of them is carried over. -/
theorem roundDiv_le {num den : Nat} (hden : 0 < den) {e : Int}
    (he : binaryOrder num den - 52 ≤ e) :
    roundDiv (num * (twoPower e).2) (den * (twoPower e).1) ≤ 2 * fullUnits := by
  have hratio : num * (twoPower e).2 < 2 * fullUnits * (den * (twoPower e).1) := by
    have hlt : (num : ℚ) < den * 2 ^ 53 * 2 ^ e := calc
      (num : ℚ) < den * 2 ^ (binaryOrder num den + 1) := lt_binaryOrder hden
      _ ≤ den * 2 ^ ((53 : Int) + e) :=
        mul_le_mul_of_nonneg_left (zpow_le_zpow_right₀ (by norm_num) (by omega)) (by positivity)
      _ = den * 2 ^ 53 * 2 ^ e := by rw [zpow_add₀ (by norm_num), ← mul_assoc]; rfl
    have := (lt_twoPower_iff num (den * 2 ^ 53) e).2 (by push_cast; exact hlt)
    calc num * (twoPower e).2 < den * 2 ^ 53 * (twoPower e).1 := this
      _ = 2 * fullUnits * (den * (twoPower e).1) := by rw [show 2 * fullUnits = 2 ^ 53 from rfl]; ring
  have hquotient : num * (twoPower e).2 / (den * (twoPower e).1) < 2 * fullUnits :=
    Nat.div_lt_of_lt_mul (by rwa [mul_comm (den * (twoPower e).1)])
  rcases roundDiv_eq_or (num * (twoPower e).2) (den * (twoPower e).1) with h | h <;> omega

/-- **A double within its format**: what is no number, infinite, or `m · 2 ^ e`
    with as many units and such an exponent as there are. -/
def InRange : Double → Prop
  | finite _ m e => m < 2 * fullUnits ∧ -1074 ≤ e ∧ e ≤ 971
  | _ => True

theorem inRange_zero (negative : Bool) : InRange (finite negative 0 (-1074)) := by
  refine ⟨?_, ?_, ?_⟩ <;> decide

theorem inRange_ofRatio (negative : Bool) (num : Nat) {den : Nat} (hden : 0 < den) :
    InRange (ofRatio negative num den) := by
  unfold ofRatio
  dsimp only
  split
  · exact inRange_zero negative
  generalize he : max (binaryOrder num den - 52) (-1074) = e
  have hm : roundDiv (num * (twoPower e).2) (den * (twoPower e).1) ≤ 2 * fullUnits :=
    roundDiv_le hden (by omega)
  generalize roundDiv (num * (twoPower e).2) (den * (twoPower e).1) = m at hm
  -- a unit that is carried over counts in the exponent
  by_cases hcarry : m = 2 * fullUnits
  · simp only [hcarry, if_true]
    split
    · trivial
    · exact ⟨by decide, by omega, by omega⟩
  · simp only [hcarry, if_false]
    split
    · trivial
    · exact ⟨by omega, by omega, by omega⟩

theorem tenPower_pos (n : Int) : 0 < (tenPower n).2 := by
  unfold tenPower
  split
  · exact Nat.one_pos
  · exact Nat.pow_pos (by decide)

theorem inRange_ofDecimal (negative : Bool) (digits : Nat) (exponent : Int) :
    InRange (ofDecimal negative digits exponent) := by
  unfold ofDecimal
  dsimp only
  split
  · exact inRange_zero negative
  split
  · trivial
  split
  · exact inRange_zero negative
  · exact inRange_ofRatio negative _ (tenPower_pos exponent)

/-- The exponent of the first power of two that is beyond every double. -/
def overflow : Nat := 53 + 971

theorem natAbs_lt_of_truncate {x : Double} (hx : x.InRange) {n : Int} (h : x.truncate? = some n) :
    n.natAbs < 2 ^ overflow := by
  cases x with
  | nan | infinite => cases h
  | finite negative m e =>
    obtain ⟨hm, -, he⟩ := hx
    cases h
    have hlt : (ratio m e).1 / (ratio m e).2 < 2 ^ overflow := by
      have htop : overflow = 53 + 971 := rfl
      unfold ratio twoPower
      dsimp only
      split
      · calc m * 2 ^ e.toNat / 1 = m * 2 ^ e.toNat := Nat.div_one _
          _ < 2 ^ 53 * 2 ^ e.toNat := Nat.mul_lt_mul_of_pos_right hm (Nat.pow_pos (by decide))
          _ = 2 ^ (53 + e.toNat) := (Nat.pow_add ..).symm
          _ ≤ 2 ^ overflow := Nat.pow_le_pow_right (by decide) (by omega)
      · calc m * 1 / 2 ^ (-e).toNat ≤ m := by rw [mul_one]; exact Nat.div_le_self _ _
          _ < 2 ^ 53 := hm
          _ ≤ 2 ^ overflow := Nat.pow_le_pow_right (by decide) (by omega)
    generalize (ratio m e).1 / (ratio m e).2 = q at hlt
    cases negative <;> simpa using hlt

/-- **The integer part of a double in range is short.** -/
theorem short_of_truncate {x : Double} (hx : x.InRange) {n : Int} (h : x.truncate? = some n) :
    Short n :=
  short_of_lt (by decide) (natAbs_lt_of_truncate hx h)

end Double

/-! ## Where integers come from -/

theorem digitsValue_lt {value : Char → Nat} {cs : List Char} (hvalue : ∀ c ∈ cs, value c < 10) :
    cs.foldl (fun n c => 10 * n + value c) 0 < 10 ^ cs.length := by
  induction cs using List.reverseRecOn with
  | nil => exact Nat.one_pos
  | append_singleton cs c ih =>
    have hlast := hvalue c (by simp)
    have hfirst := ih fun d hd => hvalue d (List.mem_append_left _ hd)
    simp only [List.foldl_append, List.foldl_cons, List.foldl_nil, List.length_append,
      List.length_singleton, pow_succ]
    omega

theorem short_of_digits {value : Char → Nat} {cs : List Char} (hvalue : ∀ c ∈ cs, value c < 10)
    (hlength : cs.length ≤ Number.digitLimit) (negative : Bool) :
    Short (if negative then -((cs.foldl (fun n c => 10 * n + value c) 0 : Nat) : Int)
      else (cs.foldl (fun n c => 10 * n + value c) 0 : Nat)) := by
  have hlt := (digitsValue_lt hvalue).trans_le
    (Nat.pow_le_pow_right (n := 10) (by decide) hlength)
  cases negative <;> simpa [short_iff] using hlt

theorem short_of_readInteger {s : String} {n : Int} (h : Number.readInteger s = .value n) :
    Short n := by
  unfold Number.readInteger at h
  split at h
  next negative body _ =>
  split at h
  next digits rest _ =>
  split at h
  · cases h
  split at h
  · cases h
  · next hlimit =>
    split at h
    · cases h
    · have hvalue : ∀ c ∈ digits, (Text.digitValue? c).getD 0 < 10 := by
        intro c _
        cases hc : Text.digitValue? c with
        | none => decide
        | some d => exact Text.digitValue?_lt hc
      injection h with h
      exact h ▸ short_of_digits hvalue (Nat.not_lt.1 hlimit) negative

/-! ## Moments -/

namespace Moment

theorem natAbs_millisOf_lt (seconds : Double) : (millisOf seconds).natAbs < 2 ^ Double.overflow := by
  unfold millisOf
  cases hn : (seconds.scale 1000).truncate? with
  | none => exact Nat.pow_pos (by decide)
  | some n =>
    refine Double.natAbs_lt_of_truncate ?_ hn
    cases seconds with
    | nan | infinite => trivial
    | finite negative m e => exact Double.inRange_ofRatio negative _ (twoPower_pos e).2

theorem short_historyMillis (t : Moment) : Short t.historyMillis :=
  short_of_lt (by decide) (natAbs_millisOf_lt _)

theorem short_searchMicros (t : Moment) : Short t.searchMicros := by
  refine short_of_lt (k := Double.overflow + 10) (by decide) ?_
  unfold searchMicros
  rw [Int.natAbs_mul, Nat.pow_add]
  exact Nat.mul_lt_mul_of_lt_of_lt (natAbs_millisOf_lt _) (by decide)

end Moment

end SpanQuest
