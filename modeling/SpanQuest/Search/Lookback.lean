/-
  Lookbacks: how far back a search goes.

  A lookback is a number of minutes, hours, days or weeks, written with one
  letter: `15m`, `1h`, `2d`, `1w`.  The digits may be of any script, blanks may
  stand around it, and the number is one at least.  A lookback of more than
  999999999 days is no duration.
-/
import SpanQuest.Text.Blank
import SpanQuest.Text.DecimalDigit
import SpanQuest.Number.Reading
import SpanQuest.Trouble

namespace SpanQuest

/-- The units of a lookback. -/
inductive LookbackUnit where
  | minute
  | hour
  | day
  | week
  deriving DecidableEq, Repr

namespace LookbackUnit

/-- The letter of a unit. -/
def letter : LookbackUnit → Char
  | minute => 'm'
  | hour => 'h'
  | day => 'd'
  | week => 'w'

/-- The unit of a letter. -/
def ofLetter? (c : Char) : Option LookbackUnit :=
  if c == 'm' then some minute
  else if c == 'h' then some hour
  else if c == 'd' then some day
  else if c == 'w' then some week
  else none

/-- The length of a unit in seconds. -/
def seconds : LookbackUnit → Nat
  | minute => 60
  | hour => 3600
  | day => 86400
  | week => 604800

@[simp] theorem ofLetter?_letter (u : LookbackUnit) : ofLetter? u.letter = some u := by
  cases u <;> rfl

end LookbackUnit

/-- A lookback: its length, and the text that it was given as. -/
structure Lookback where
  seconds : Nat
  given : String
  deriving DecidableEq, Repr, Inhabited

namespace Lookback

/-- The days of the longest duration. -/
def maxDays : Nat := 999999999

/-- The digits and the unit of a lookback; none unless digits are followed by
    one letter of a unit. -/
def parts? (cs : List Char) : Option (List Char × LookbackUnit) :=
  let digits := cs.takeWhile Text.isDigit
  match digits, cs.dropWhile Text.isDigit with
  | _ :: _, [c] => (LookbackUnit.ofLetter? c).map fun u => (digits, u)
  | _, _ => none

/-- The lookback that a text denotes. -/
def read (given : String) : Except Trouble Lookback :=
  match parts? (Text.trimChars given.toList) with
  | none => .error (.failure (.badLookback given))
  | some (digits, unit) =>
    if Number.digitLimit < digits.length then .error (.fault (.digitLimit digits.length))
    else
      let n := Text.digitsValue digits
      if n = 0 then .error (.failure (.badLookback given))
      else if maxDays < n * unit.seconds / 86400 then .error (.fault .durationRange)
      else .ok ⟨n * unit.seconds, given⟩

/-- The lookback that a value is; it has to be a text. -/
def ofJson : Json → Except Trouble Lookback
  | .text given => read given
  | v => .error (.fault (.noMember v.kindName "strip"))

end Lookback

end SpanQuest
