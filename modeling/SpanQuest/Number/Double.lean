/-
  Numbers in double precision, with exact arithmetic behind them.

  A finite double is `m · 2 ^ e` with `m < 2 ^ 53` and `-1074 ≤ e ≤ 971`.  Every
  operation computes the exact result as a ratio of natural numbers and rounds
  it once, to the nearest double and a tie to the even one (`ofRatio`).

  * `roundDiv` rounds a quotient to the nearest integer;
  * `ofRatio`, `ofInt`, `ofDecimal` round a ratio, an integer and a decimal;
  * `scale` multiplies by a natural number;
  * `truncate?` drops the fraction, toward zero.
-/
namespace SpanQuest

/-- A number in double precision. -/
inductive Double where
  | nan
  | infinite (negative : Bool)
  /-- `m · 2 ^ e`, with the sign apart, as zero has one too. -/
  | finite (negative : Bool) (m : Nat) (e : Int)
  deriving DecidableEq, Repr, Inhabited

/-! ## Rounding -/

/-- The integer nearest to `num / den`; of two at the same distance the even
    one. -/
def roundDiv (num den : Nat) : Nat :=
  let q := num / den
  let r := num % den
  if 2 * r < den then q
  else if den < 2 * r then q + 1
  else if q % 2 == 0 then q else q + 1

/-- The rounded quotient is the quotient or the integer after it. -/
theorem roundDiv_eq_or (num den : Nat) :
    roundDiv num den = num / den ∨ roundDiv num den = num / den + 1 := by
  unfold roundDiv
  dsimp only
  split
  · exact .inl rfl
  split
  · exact .inr rfl
  split
  · exact .inl rfl
  · exact .inr rfl

/-- `10 ^ n` as a factor above or below the line: `(10 ^ n, 1)` or `(1, 10 ^ -n)`. -/
def tenPower (n : Int) : Nat × Nat :=
  if 0 ≤ n then (Nat.pow 10 n.toNat, 1) else (1, Nat.pow 10 (-n).toNat)

/-- `2 ^ n` as a factor above or below the line. -/
def twoPower (n : Int) : Nat × Nat :=
  if 0 ≤ n then (Nat.pow 2 n.toNat, 1) else (1, Nat.pow 2 (-n).toNat)

namespace Double

/-- `2 ^ 52`: a double of full precision is that many of its units at least, and
    less than twice as many. -/
def fullUnits : Nat := 4503599627370496

/-- Positive zero. -/
def zero : Double := finite false 0 (-1074)

/-- The greatest `k` with `2 ^ k ≤ num / den`, for a positive ratio. -/
def binaryOrder (num den : Nat) : Int :=
  let k : Int := (Nat.log2 num : Int) - (Nat.log2 den : Int)
  let p := twoPower k
  if den * p.1 ≤ num * p.2 then k else k - 1

/-- The double nearest to `num / den`, for a positive `den`. -/
def ofRatio (negative : Bool) (num den : Nat) : Double :=
  if num = 0 then finite negative 0 (-1074)
  else
    let e := max (binaryOrder num den - 52) (-1074)
    let p := twoPower e
    let m := roundDiv (num * p.2) (den * p.1)
    let (m, e) := if m = 2 * fullUnits then (fullUnits, e + 1) else (m, e)
    if 971 < e then infinite negative else finite negative m e

/-- The double nearest to an integer. -/
def ofInt (n : Int) : Double :=
  ofRatio (n < 0) n.natAbs 1

/-- The double nearest to `digits · 10 ^ exponent`.  A decimal beyond the range
    by its order alone is not computed. -/
def ofDecimal (negative : Bool) (digits : Nat) (exponent : Int) : Double :=
  if digits = 0 then finite negative 0 (-1074)
  else
    let order : Int := (Nat.log2 digits : Int) * 3 / 10 + exponent
    if 400 < order then infinite negative
    else if order < -800 - (Nat.log2 digits : Int) then finite negative 0 (-1074)
    else
      let p := tenPower exponent
      ofRatio negative (digits * p.1) p.2

/-- A finite double as a ratio without its sign. -/
def ratio (m : Nat) (e : Int) : Nat × Nat :=
  let p := twoPower e
  (m * p.1, p.2)

/-- `x · n`, rounded. -/
def scale (x : Double) (n : Nat) : Double :=
  match x with
  | finite negative m e =>
    let r := ratio m e
    ofRatio negative (r.1 * n) r.2
  | other => other

/-- `x / n` for a positive `n`, rounded. -/
def divide (x : Double) (n : Nat) : Double :=
  match x with
  | finite negative m e =>
    let r := ratio m e
    ofRatio negative r.1 (r.2 * n)
  | other => other

/-- The integer part of a finite double: its fraction is dropped. -/
def truncate? : Double → Option Int
  | finite negative m e =>
    let r := ratio m e
    let n : Int := ↑(r.1 / r.2)
    some (if negative then -n else n)
  | _ => none

/-- The double is a whole number. -/
def isWhole : Double → Bool
  | finite _ m e => let r := ratio m e; r.1 % r.2 == 0
  | _ => false

/-- Zero, of either sign. -/
def isZero : Double → Bool
  | finite _ m _ => m == 0
  | _ => false

/-- The double is the natural number or more. -/
def atLeast (n : Nat) : Double → Bool
  | nan => false
  | infinite negative => !negative
  | finite negative m e =>
    let r := ratio m e
    if negative then n == 0 && m == 0 else decide (n * r.2 ≤ r.1)

end Double

end SpanQuest
