/-
  The text that a value is shown as.

  An integer may not have too many digits to be shown, and neither may one that
  stands anywhere inside an array or an object.
-/
import SpanQuest.Trouble.Fault

namespace SpanQuest.Json

mutual

/-- No integer in the value has too many digits to be shown. -/
def isShowable : Json → Bool
  | int n => (decimalDigits n.natAbs).length ≤ Number.digitLimit
  | array items => allShowable items
  | object members => membersShowable members
  | _ => true

/-- All items can be shown. -/
def allShowable : List Json → Bool
  | [] => true
  | v :: vs => v.isShowable && allShowable vs

/-- The values of all members can be shown. -/
def membersShowable : List (String × Json) → Bool
  | [] => true
  | (_, v) :: ms => v.isShowable && membersShowable ms

end

/-- What is wrong with a value that cannot be shown. -/
def notShowable : Fault :=
  .foreign "ValueError" (s!"Exceeds the limit ({Number.digitLimit} digits) for integer string " ++
    "conversion; use sys.set_int_max_str_digits() to increase the limit")

/-- The text that a value is shown as. -/
def shown (v : Json) : Except Fault String :=
  if v.isShowable then .ok v.display else .error notShowable

end SpanQuest.Json
