/-
  Numbers from texts that people write: in configuration, in stored history.

  Blanks around the number are dropped, a sign may stand before it, a single
  underscore may stand between two digits, and the digits may be those of any
  script.  A real number has a point or an exponent or neither, or is one of
  the words for infinity and for what is no number, in any case.

  An integer of more than 4300 digits is refused.
-/
import SpanQuest.Number.Double
import SpanQuest.Text.Blank
import SpanQuest.Text.DecimalDigit
import SpanQuest.Text.LetterCase

namespace SpanQuest.Number

open SpanQuest.Text

/-! ## Runs of digits -/

/-- The blanks that may stand around a number: all but the information
    separators. -/
def isMargin (c : Char) : Bool :=
  isBlank c && !(0x1c ≤ c.toNat && c.toNat ≤ 0x1f)

/-- The characters without the blanks around the number. -/
def trimMargin (cs : List Char) : List Char :=
  ((cs.dropWhile isMargin).reverse.dropWhile isMargin).reverse

/-- The digits at the front, without the underscores between them, and what
    follows. -/
def digitRun : List Char → List Char × List Char
  | [] => ([], [])
  | [c] => if isDigit c then ([c], []) else ([], [c])
  | c :: d :: cs =>
    if isDigit c then
      if d = '_' then
        match cs with
        | [] => ([c], ['_'])
        | e :: rest =>
          if isDigit e then
            let run := digitRun (e :: rest)
            (c :: run.1, run.2)
          else ([c], '_' :: e :: rest)
      else
        let run := digitRun (d :: cs)
        (c :: run.1, run.2)
    else ([], c :: d :: cs)

/-- The sign at the front, true for minus, and what follows. -/
def signed : List Char → Bool × List Char
  | '-' :: cs => (true, cs)
  | '+' :: cs => (false, cs)
  | cs => (false, cs)

/-! ## Integers -/

/-- The most digits that an integer may be written in. -/
def digitLimit : Nat := 4300

/-- What a text says as an integer. -/
inductive IntegerReading where
  | value (n : Int)
  /-- More digits than an integer may have. -/
  | tooLong (digits : Nat)
  | malformed
  deriving DecidableEq

/-- The integer that a text denotes. -/
def readInteger (s : String) : IntegerReading :=
  let (negative, body) := signed (trimMargin s.toList)
  let (digits, rest) := digitRun body
  if digits.isEmpty || rest.head? == some '_' then .malformed
  else if digitLimit < digits.length then .tooLong digits.length
  else if !rest.isEmpty then .malformed
  else
    let n : Int := digitsValue digits
    .value (if negative then -n else n)

/-- The integer that a text denotes, if it denotes one. -/
def readInteger? (s : String) : Option Int :=
  match readInteger s with
  | .value n => some n
  | _ => none

/-! ## Real numbers -/

/-- The exponent at the end of a real number: none, or a letter and an integer
    after it. -/
def readExponent? : List Char → Option Int
  | [] => some 0
  | e :: cs =>
    if e == 'e' || e == 'E' then
      let (negative, body) := signed cs
      let (digits, rest) := digitRun body
      if digits.isEmpty || !rest.isEmpty then none
      else
        let n : Int := digitsValue digits
        some (if negative then -n else n)
    else none

/-- The double that a text denotes. -/
def readDouble? (s : String) : Option Double :=
  let (negative, body) := signed (trimMargin s.toList)
  let word := String.ofList (body.map lowerAsciiChar)
  if word == "inf" || word == "infinity" then some (.infinite negative)
  else if word == "nan" then some .nan
  else
    let (whole, rest) := digitRun body
    let (fraction, rest) :=
      match rest with
      | '.' :: cs => digitRun cs
      | cs => ([], cs)
    if whole.isEmpty && fraction.isEmpty then none
    else
      (readExponent? rest).map fun e =>
        Double.ofDecimal negative (digitsValue (whole ++ fraction)) (e - fraction.length)

end SpanQuest.Number
