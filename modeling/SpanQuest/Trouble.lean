/-
  Troubles: all the ways in which an operation ends without a result.

  `within` says what becomes of a trouble inside a request: a failure stays, a
  fault and a rejection become failures of the protocol, and a withdrawal
  stays a withdrawal.
-/
import SpanQuest.Trouble.Failure
import SpanQuest.Trouble.Fault
import SpanQuest.Trouble.Issue

namespace SpanQuest

/-- Why an operation has no result. -/
inductive Trouble where
  | failure (f : Failure)
  | fault (f : Fault)
  | rejected (r : Rejection)
  /-- The caller no longer waits, for a reason. -/
  | withdrawn (reason : String)
  deriving Inhabited

namespace Trouble

/-- The wording of a trouble. -/
def message : Trouble → String
  | failure f => f.message
  | fault f => f.message
  | rejected r => r.message
  | withdrawn reason => reason

/-- A trouble inside an activity that reports all but failures as failures of
    the protocol, with its own words before theirs. -/
def within (activity : String) : Trouble → Trouble
  | failure f => failure f
  | fault f => failure (.protocol s!"{activity}: {f.message}" .null .null)
  | rejected r => failure (.protocol s!"{activity}: {r.message}" .null .null)
  | withdrawn reason => withdrawn reason

/-- Inside an activity every trouble but a withdrawal is a failure. -/
theorem within_cases (activity : String) (t : Trouble) :
    (∃ f, t.within activity = failure f) ∨ (∃ r, t.within activity = withdrawn r) := by
  cases t with
  | failure f => exact .inl ⟨f, rfl⟩
  | fault f => exact .inl ⟨_, rfl⟩
  | rejected r => exact .inl ⟨_, rfl⟩
  | withdrawn r => exact .inr ⟨r, rfl⟩

end Trouble

end SpanQuest
