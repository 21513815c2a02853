/-
  Deadlines: how long a caller waits for an answer.

  A deadline is a number of seconds, or there is none.  A value that no time
  can be made of is found out only when somebody begins to wait.
-/
import SpanQuest.Trouble.Fault

namespace SpanQuest

/-- How long a caller waits for an answer. -/
inductive Deadline where
  | never
  | after (seconds : Double)
  /-- A value that no time can be made of. -/
  | unusable (fault : Fault)
  deriving Inhabited

namespace Deadline

/-- How long a caller waits unless said otherwise. -/
def usual : Deadline := .after (.ofInt 10)

/-- The deadline after an integer number of seconds; it has to be a double. -/
def ofInt (n : Int) : Deadline :=
  match Double.ofInt n with
  | .infinite _ => .unusable .hugeInteger
  | x => .after x

/-- The deadline that a value gives; null gives none. -/
def ofJson : Json → Deadline
  | .null => .never
  | .double x => .after x
  | .int n => ofInt n
  | .bool b => ofInt (if b then 1 else 0)
  | v => .unusable (.notAddable v.kindName)

/-- What goes wrong for one who begins to wait. -/
def fault? : Deadline → Option Fault
  | unusable f => some f
  | _ => none

/-- The seconds of a deadline that passes. -/
def seconds? : Deadline → Option Double
  | after x => some x
  | _ => none

end Deadline

end SpanQuest
