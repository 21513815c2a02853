/-
  Loosely written numbers: from a command line, from one who hands in a
  timestamp.

  Only the digits of ASCII count.  An integer may have zeros and underscores
  before its first digit, single underscores between digits, and a fraction of
  zeros; a real number may have single underscores anywhere but at its ends.

  * `readLooseInteger` is the integer that a text denotes;
  * `readLooseDouble?` is the double that a text denotes.
-/
import SpanQuest.Number.Reading

namespace SpanQuest.Number

open SpanQuest.Text

/-! ## Underscores -/

/-- Two underscores in a row. -/
def hasDoubleUnderscore : List Char → Bool
  | '_' :: '_' :: _ => true
  | _ :: cs => hasDoubleUnderscore cs
  | [] => false

/-- The text without its underscores; none if there is no underscore, if one
    stands at an end, or if two stand side by side. -/
def withoutUnderscores? (cs : List Char) : Option (List Char) :=
  if !cs.contains '_' || cs.head? == some '_' || cs.getLast? == some '_' || hasDoubleUnderscore cs
  then none
  else some (cs.filter (· != '_'))

/-! ## Integers -/

/-- A digit of ASCII other than zero. -/
def isLeading (c : Char) : Bool :=
  '1' ≤ c && c ≤ '9'

/-- How many characters at the front are an integer without a zero in front. -/
def plainLength : List Char → Nat
  | '-' :: c :: cs => if isLeading c then (cs.takeWhile Char.isDigit).length + 2 else 0
  | c :: cs => if isLeading c then (cs.takeWhile Char.isDigit).length + 1 else 0
  | [] => 0

/-- The text after the zeros and underscores at its front, the last of which is
    `last`; it stays where a point or nothing follows. -/
def afterZeros? (last : Char) : List Char → Option (List Char)
  | [] => some [last]
  | c :: cs =>
    if c == '0' || c == '_' then afterZeros? c cs
    else if isLeading c || c == '-' then some (c :: cs)
    else if c == '.' then some (last :: c :: cs)
    else none

/-- The text without zeros in front; none if it does not begin like an integer. -/
def withoutZeros? : List Char → Option (List Char)
  | [] => none
  | c :: cs =>
    if c == '0' then afterZeros? c cs
    else if isLeading c || c == '-' then some (c :: cs)
    else none

/-- The text without a fraction of zeros. -/
def withoutZeroFraction (cs : List Char) : List Char :=
  match cs.dropWhile (· != '.') with
  | '.' :: d :: ds => if (d :: ds).all (· == '0') then cs.takeWhile (· != '.') else cs
  | _ => cs

/-- The integer that a sign and digits denote, without a zero in front. -/
def exactInteger? (cs : List Char) : Option Int :=
  let (negative, digits) := match cs with
    | '-' :: ds => (true, ds)
    | ds => (false, ds)
  if digits != ['0'] && plainLength digits != digits.length || digits.isEmpty then none
  else if digits.head? == some '-' || digitLimit < cs.length then none
  else
    let n : Int := digitsValue digits
    some (if negative then -n else n)

/-- The digits of a loosely written integer, and a sign that follows zeros. -/
def looseDigits? (cs : List Char) : Option (List Char) :=
  (withoutZeros? cs).map fun rest =>
    let whole := withoutZeroFraction rest
    (withoutUnderscores? whole).getD whole

/-- The integer that a text denotes.  A text that begins with too many digits is
    too long, whatever follows them. -/
def readLooseInteger (s : String) : IntegerReading :=
  let cs := s.toList
  if digitLimit < plainLength cs then .tooLong (plainLength cs)
  else
    let exact := match trimMargin cs with
      | '-' :: rest => (looseDigits? rest).bind fun ds => exactInteger? ('-' :: ds)
      | '+' :: rest => (looseDigits? rest).bind fun ds =>
        if ds.head? == some '-' then none else exactInteger? ds
      | rest => (looseDigits? rest).bind exactInteger?
    match exact with
    | some n => .value n
    | none => .malformed

/-- The integer that a text denotes, if it denotes one. -/
def readLooseInteger? (s : String) : Option Int :=
  match readLooseInteger s with
  | .value n => some n
  | _ => none

/-! ## Real numbers -/

/-- The double that a text of ASCII without underscores denotes. -/
def exactDouble? (cs : List Char) : Option Double :=
  if cs.all fun c => c.toNat < 0x80 && !isMargin c && c != '_' then readDouble? (String.ofList cs)
  else none

/-- The double that a text denotes. -/
def readLooseDouble? (s : String) : Option Double :=
  (exactDouble? (trimMargin s.toList)).or ((withoutUnderscores? s.toList).bind exactDouble?)

end SpanQuest.Number
