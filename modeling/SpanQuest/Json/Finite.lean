/-
  Values without numbers that JSON lacks.

  A reader takes infinite numbers and those that are none, but a strict writer
  refuses a value that holds one anywhere.
-/
import SpanQuest.Json.Value

namespace SpanQuest.Json

mutual

/-- No number in the value is infinite or none. -/
def isFinite : Json → Bool
  | double (.finite ..) => true
  | double _ => false
  | array items => allFinite items
  | object members => membersFinite members
  | _ => true

/-- All items are finite. -/
def allFinite : List Json → Bool
  | [] => true
  | v :: vs => v.isFinite && allFinite vs

/-- The values of all members are finite. -/
def membersFinite : List (String × Json) → Bool
  | [] => true
  | (_, v) :: ms => v.isFinite && membersFinite ms

end

/-- An object is finite if the values of all its members are. -/
theorem isFinite_object (members : List (String × Json)) :
    (object members).isFinite = members.all fun m => m.2.isFinite := by
  rw [isFinite]
  induction members with
  | nil => rfl
  | cons m ms ih => rw [membersFinite, ih, List.all_cons]

end SpanQuest.Json
