/-
  Decimal texts of doubles.

  * `shortest` gives the fewest digits that read back as the double, and of
    those the nearest; `sixDigits` gives six digits, rounded once;
  * `Layout` says how digits are written: where positional notation begins and
    ends and what follows a whole number;
  * `Double.text` is the shortest text, with a point or an exponent in it, and
    `Double.brief` that of six digits without the zeros at its end.
-/
import SpanQuest.Number.Double

namespace SpanQuest

/-! ## Digits -/

/-- The digits of a natural number in base ten, as characters. -/
def decimalDigits (n : Nat) : List Char := Nat.toDigits 10 n

/-- A decimal `digits · 10 ^ exponent`. -/
structure Decimal where
  digits : Nat
  exponent : Int
  deriving DecidableEq, Repr

namespace Decimal

/-- The zeros at the end of the digits moved to the exponent, at most `fuel` of
    them. -/
def strip : Nat → Decimal → Decimal
  | 0, d => d
  | fuel + 1, d =>
    if d.digits != 0 && d.digits % 10 == 0 then strip fuel ⟨d.digits / 10, d.exponent + 1⟩ else d

/-- The number `k` with `10 ^ (k - 1) ≤ num / den < 10 ^ k`, for a positive
    ratio: counted on the whole part if there is one, else step by step on the
    zeros after the point. -/
def decimalOrder (num den : Nat) : Int :=
  if den ≤ num then ((decimalDigits (num / den)).length : Int)
  else below 400 num
where
  /-- The order of `num / den < 1`: one less for each factor ten that keeps it
      below one. -/
  below : Nat → Nat → Int
    | 0, _ => 0
    | fuel + 1, num => if den ≤ num * 10 then 0 else below fuel (num * 10) - 1

/-- The point of the grid of `10 ^ p` that lies in the interval from `low` to
    `high` (numerators over `den`; the ends count if `closed`) and is one of
    the two neighbours of `num / den`.  Of two, the nearer; of two at the same
    distance, the even one. -/
def onGrid? (num low high den : Nat) (closed : Bool) (p : Int) : Option Nat :=
  let t := tenPower p
  let scale := t.2
  let unit := den * t.1
  let below := num * scale / unit
  let above := below + 1
  let inside := fun c : Nat =>
    if closed then low * scale ≤ c * unit && c * unit ≤ high * scale
    else low * scale < c * unit && c * unit < high * scale
  if inside below && inside above then
    let down := num * scale - below * unit
    let up := above * unit - num * scale
    if down < up || (down == up && below % 2 == 0) then some below else some above
  else if inside below then some below
  else if inside above then some above
  else none

/-- The first grid of `n`, `n + 1`, … digits (at most `fuel` grids) with a point
    that reads back. -/
def firstGrid (num low high den : Nat) (closed : Bool) (order : Int) : Nat → Nat → Decimal
  | 0, _ => ⟨0, 0⟩
  | fuel + 1, n =>
    let p := order - n
    match onGrid? num low high den closed p with
    | some c => strip 20 ⟨c, p⟩
    | none => firstGrid num low high den closed order fuel (n + 1)

/-- The decimal of fewest digits that reads back as `m · 2 ^ e`, and of those
    the nearest.  What reads back is an interval about the double: half a unit
    on either side, but a quarter below a power of two, and its ends belong to
    it if `m` is even. -/
def shortest (m : Nat) (e : Int) : Decimal :=
  if m = 0 then ⟨0, 0⟩
  else
    let p := twoPower (e - 2)
    let low := if m = Double.fullUnits && -1074 < e then 4 * m - 1 else 4 * m - 2
    let num := 4 * m * p.1
    firstGrid num (low * p.1) ((4 * m + 2) * p.1) p.2 (m % 2 == 0) (decimalOrder num p.2) 17 1

/-- The decimal of six digits nearest to `m · 2 ^ e`; a tie goes to the even
    one. -/
def sixDigits (m : Nat) (e : Int) : Decimal :=
  if m = 0 then ⟨0, 0⟩
  else
    let r := Double.ratio m e
    let p := decimalOrder r.1 r.2 - 6
    let t := tenPower p
    strip 20 ⟨roundDiv (r.1 * t.2) (r.2 * t.1), p⟩

/-! ## Layout -/

/-- How a decimal is written: positionally while its leading digit stands for
    `10 ^ k` with `-4 ≤ k < upTo`, and with `whole` after a number without a
    fraction. -/
structure Layout where
  upTo : Int
  whole : List Char

/-- The exponent with its sign, in two digits at least. -/
def exponentText (k : Int) : List Char :=
  let ds := decimalDigits k.natAbs
  (if k < 0 then '-' else '+') :: (if ds.length < 2 then '0' :: ds else ds)

/-- A decimal without its sign. -/
def write (layout : Layout) (d : Decimal) : List Char :=
  let ds := decimalDigits d.digits
  let lead : Int := (ds.length : Int) - 1 + d.exponent
  if -4 ≤ lead && lead < layout.upTo then
    if 0 ≤ d.exponent then ds ++ List.replicate d.exponent.toNat '0' ++ layout.whole
    else
      let places := (-d.exponent).toNat
      if places < ds.length then
        ds.take (ds.length - places) ++ '.' :: ds.drop (ds.length - places)
      else '0' :: '.' :: List.replicate (places - ds.length) '0' ++ ds
  else
    (match ds with
      | [] => []
      | [c] => [c]
      | c :: rest => c :: '.' :: rest) ++ 'e' :: exponentText lead

end Decimal

namespace Double

/-- The words for what is no number; `infinite` carries its sign before it. -/
def write (layout : Decimal.Layout) (digits : Nat → Int → Decimal) : Double → List Char
  | nan => ['n', 'a', 'n']
  | infinite negative => if negative then ['-', 'i', 'n', 'f'] else ['i', 'n', 'f']
  | finite negative m e =>
    let body := (digits m e).write layout
    if negative then '-' :: body else body

/-- The shortest text that reads back: positional below `10 ^ 16`, and a whole
    number ends in `.0`. -/
def text (x : Double) : String :=
  String.ofList (x.write ⟨16, ['.', '0']⟩ Decimal.shortest)

/-- The text in six digits: positional below `10 ^ 6`, without zeros at the end
    of the fraction. -/
def brief (x : Double) : String :=
  String.ofList (x.write ⟨6, []⟩ Decimal.sixDigits)

end Double

end SpanQuest
