/-
  JSON values.

  Integers are unbounded, every other number is a double, and the members of
  an object stand in their order.  Beside the type stand the questions that
  the rest of the project asks of a value: its kind, the member of a name,
  whether it counts as present (`isTruthy`).
-/
import SpanQuest.Mapping
import SpanQuest.Number.Double

namespace SpanQuest

/-- A JSON value. -/
inductive Json where
  | null
  | bool (b : Bool)
  | int (n : Int)
  | double (x : Double)
  | text (s : String)
  | array (items : List Json)
  | object (members : List (String × Json))
  deriving Inhabited

namespace Json

/-- The name of the kind of a value, as messages give it. -/
def kindName : Json → String
  | null => "NoneType"
  | bool _ => "bool"
  | int _ => "int"
  | double _ => "float"
  | text _ => "str"
  | array _ => "list"
  | object _ => "dict"

/-- A value that counts as present: neither null, false, zero, nor empty. -/
def isTruthy : Json → Bool
  | null => false
  | bool b => b
  | int n => n != 0
  | double x => !x.isZero
  | text s => !s.isEmpty
  | array items => !items.isEmpty
  | object members => !members.isEmpty

/-- The value, or another where it does not count as present. -/
def orElse (v other : Json) : Json :=
  if v.isTruthy then v else other

/-- Null. -/
def isNull : Json → Bool
  | null => true
  | _ => false

/-- The text that the value is. -/
def text? : Json → Option String
  | text s => some s
  | _ => none

/-- The value of an object's member. -/
def member? (name : String) : Json → Option Json
  | object members => Mapping.get? name members
  | _ => none

/-- The value of an object's member, null if there is none. -/
def member (name : String) (v : Json) : Json :=
  (v.member? name).getD null

/-- A text, or null. -/
def ofOption : Option String → Json
  | some s => text s
  | none => null

end Json

end SpanQuest
