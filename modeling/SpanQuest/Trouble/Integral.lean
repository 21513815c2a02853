/-
  The integer that a stored value stands for.

  A text has to be one, a fraction is dropped, and a truth value is one or
  zero; nothing else is an integer.
-/
import SpanQuest.Trouble.Fault

namespace SpanQuest.Json

/-- The integer that a value stands for. -/
def toInteger : Json → Except Fault Int
  | int n => .ok n
  | bool b => .ok (if b then 1 else 0)
  | double .nan => .error .noNumber
  | double x =>
    match x.truncate? with
    | some n => .ok n
    | none => .error .infiniteNumber
  | text s =>
    match Number.readInteger s with
    | .value n => .ok n
    | .tooLong count => .error (.digitLimit count)
    | .malformed => .error (.notAnInteger s)
  | v => .error (.notIntegral v.kindName)

end SpanQuest.Json
