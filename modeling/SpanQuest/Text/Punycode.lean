/-
  Punycode: characters of any script in small letters, digits and hyphens.

  The characters of ASCII stand in front.  The others follow in the order of
  their code points, each as its distance from the one before it, counted over
  all code points and all places where it could stand.  A distance is a number
  in base 36 whose last digit is known by its size, and the sizes adapt to the
  distances so far (`adapt`).

  `Punycode.encode` writes that form, and `Punycode.decode?` reads it.
-/
namespace SpanQuest.Text.Punycode

/-! ## Digits -/

/-- The character of a digit below 36: letters first. -/
def digit (d : Nat) : Char :=
  if d < 26 then Char.ofNat (0x61 + d) else Char.ofNat (0x30 + (d - 26))

/-- The value of a digit of either case. -/
def digitValue? (c : Char) : Option Nat :=
  if 'a' ≤ c && c ≤ 'z' then some (c.toNat - 0x61)
  else if 'A' ≤ c && c ≤ 'Z' then some (c.toNat - 0x41)
  else if '0' ≤ c && c ≤ '9' then some (c.toNat - 0x30 + 26)
  else none

/-- A digit at a place is the last one if it is below this. -/
def threshold (bias place : Nat) : Nat :=
  max 1 (min 26 (place - bias))

theorem one_le_threshold (bias place : Nat) : 1 ≤ threshold bias place := by
  unfold threshold
  omega

/-- Divides a distance until it is small, and counts the places. -/
def shrink (place delta : Nat) : Nat × Nat :=
  if 455 < delta then shrink (place + 36) (delta / 35) else (place, delta)
termination_by delta
decreasing_by exact Nat.div_lt_self (by omega) (by omega)

/-- The bias after a distance; `count` is how many characters there are then. -/
def adapt (first : Bool) (delta count : Nat) : Nat :=
  let scaled := if first then delta / 700 else delta / 2
  let (place, rest) := shrink 0 (scaled + scaled / count)
  place + 36 * rest / (rest + 38)

/-! ## Writing -/

/-- The digits of a distance, from a place on. -/
def digitsOf (bias place n : Nat) : List Char :=
  let t := threshold bias place
  if n < t then [digit n]
  else digit (t + (n - t) % (36 - t)) :: digitsOf bias (place + 36) ((n - t) / (36 - t))
termination_by n
decreasing_by
  have low := one_le_threshold bias place
  calc (n - threshold bias place) / (36 - threshold bias place)
      ≤ n - threshold bias place := Nat.div_le_self _ _
    _ < n := by omega

/-- The writing under way: the distance so far, the bias, how many characters
    are written, and the digits. -/
structure Writing where
  delta : Nat
  bias : Nat
  count : Nat
  digits : List Char

/-- Passes a character of the text while the code point `n` is written; `plain`
    is the number of characters of ASCII. -/
def Writing.pass (plain n : Nat) (w : Writing) (c : Char) : Writing :=
  if c.toNat < n then { w with delta := w.delta + 1 }
  else if c.toNat == n then
    ⟨0, adapt (w.count == plain) w.delta (w.count + 1), w.count + 1,
      w.digits ++ digitsOf w.bias 36 w.delta⟩
  else w

/-- Writes the code points in turn; `least` is the least that can still come. -/
def writeAll (cs : List Char) (plain : Nat) : Nat → Writing → List Nat → List Char
  | _, w, [] => w.digits
  | least, w, n :: rest =>
    let start := { w with delta := w.delta + (n - least) * (w.count + 1) }
    let after := cs.foldl (Writing.pass plain n) start
    writeAll cs plain (n + 1) { after with delta := after.delta + 1 } rest

/-- A text in small letters, digits and hyphens. -/
def encode (cs : List Char) : List Char :=
  let plain := cs.filter fun c => c.toNat < 0x80
  let others := ((cs.map Char.toNat).filter fun n => 0x80 ≤ n).mergeSort.eraseDups
  let front := if plain.isEmpty then [] else plain ++ ['-']
  front ++ writeAll cs plain.length 0x80 ⟨0, 72, plain.length, []⟩ others

/-! ## Reading -/

/-- The reading under way: the characters so far, the last code point and its
    place, the bias, and the distance that is read: the place of its next
    digit, what that digit counts, and the sum. -/
structure Reading where
  chars : List Char
  point : Nat
  place : Nat
  bias : Nat
  digitPlace : Nat
  weight : Nat
  sum : Nat

/-- The reading once the distance is known. -/
def Reading.insert? (r : Reading) (sum : Nat) : Option Reading :=
  let count := r.chars.length + 1
  let total := r.place + sum
  let point := r.point + total / count
  let place := total % count
  if h : point.isValidChar then
    some ⟨r.chars.take place ++ Char.ofNatAux point h :: r.chars.drop place, point, place + 1,
      adapt (r.point == 0x80 && r.place == 0) sum count, 36, 1, 0⟩
  else none

/-- Reads one digit. -/
def Reading.next? (r : Reading) (c : Char) : Option Reading :=
  match digitValue? c with
  | none => none
  | some d =>
    let sum := r.sum + d * r.weight
    let t := threshold r.bias r.digitPlace
    if d < t then r.insert? sum
    else some { r with digitPlace := r.digitPlace + 36, weight := r.weight * (36 - t), sum := sum }

/-- The text that small letters, digits and hyphens stand for. -/
def decode? (cs : List Char) : Option (List Char) :=
  let tail := (cs.reverse.takeWhile (· != '-')).reverse
  let front := cs.take (cs.length - tail.length - 1)
  match tail.foldlM Reading.next? ⟨front, 0x80, 0, 72, 36, 1, 0⟩ with
  | some r => if r.digitPlace == 36 then some r.chars else none
  | none => none

end SpanQuest.Text.Punycode
