/-
  Events: what each of them is to a desk.

  An event is a new call, or the call that waits was waiting for it (`Awaits`),
  or it is an answer that comes late (`isLate`), or it passes.

  * `step_answer`, `step_expire`, `step_withdraw`, `step_searched`: the step of
    an event that is awaited;
  * `step_admitted`, `step_answer_late`, `step_passes`: the other steps.
-/
import SpanQuest.Request.Desk

namespace SpanQuest

open Backend

/-- A caller asks. -/
def DeskEvent.isAsk : DeskEvent → Bool
  | ask .. => true
  | _ => false

namespace Desk

variable {d : Desk} {call : Nat} {question : String} {e : DeskEvent}

/-- The event is the answer to a call that does not wait for it. -/
def isLate (d : Desk) : DeskEvent → Bool
  | .answer call .. =>
    match d.pending with
    | some (waiting, .model ..) => waiting != call
    | _ => true
  | _ => false

/-- The call that waits was waiting for the event, or can be ended by it. -/
inductive Awaits (d : Desk) : DeskEvent → Prop where
  | answer (call : Nat) (question : String) (m : ModelIdentity) (adapter : Adapter)
      (answer : Answer) (now : Moment) (hp : d.pending = some (call, .model question m adapter)) :
      Awaits d (.answer call answer now)
  | expire (call : Nat) (question : String) (m : ModelIdentity) (adapter : Adapter)
      (seconds : Double) (hp : d.pending = some (call, .model question m adapter))
      (hs : d.rules.deadline = .after seconds) : Awaits d (.expire call)
  | withdraw (call : Nat) (p : Pending) (hp : d.pending = some (call, p)) :
      Awaits d (.withdraw call)
  | searched (call : Nat) (question : String) (t : Resolution) (said : Except Trouble Unit)
      (now : Moment) (hp : d.pending = some (call, .search question t)) :
      Awaits d (.searched call said now)

theorem Awaits.not_ask (h : d.Awaits e) : e.isAsk = false := by
  cases h <;> rfl

theorem Awaits.not_late (h : d.Awaits e) : d.isLate e = false := by
  cases h with
  | answer call question m adapter answer now hp => simp [isLate, hp]
  | expire | withdraw | searched => rfl

/-! ## Events that are awaited -/

theorem step_answer {m : ModelIdentity} {adapter : Adapter}
    (hp : d.pending = some (call, .model question m adapter)) (answer : Answer) (now : Moment) :
    d.step (.answer call answer now) = d.resume call question m adapter answer now := by
  simp only [step, hp, beq_self_eq_true, if_true]

/-- The deadline of the call that waits for the model: its token is tripped, and
    then it fails. -/
theorem step_expire {m : ModelIdentity} {adapter : Adapter} {seconds : Double}
    (hp : d.pending = some (call, .model question m adapter))
    (hs : d.rules.deadline = .after seconds) :
    d.step (.expire call) = (d.abandon call adapter (expiredReason seconds)).refuse call
      (.failure (.timeout seconds)) := by
  simp only [step, hp, hs, Deadline.seconds?, beq_self_eq_true, if_true]

/-- The exchanges that are abandoned once a call is withdrawn. -/
def abandonedBy (d : Desk) (call : Nat) : Pending → List Abandoned
  | .model _ _ adapter => (d.abandon call adapter withdrawnReason).abandoned
  | .search .. => d.abandoned

theorem step_withdraw {p : Pending} (hp : d.pending = some (call, p)) :
    d.step (.withdraw call) = ({ d with abandoned := d.abandonedBy call p, pending := none },
      [.finish call (.error (.withdrawn ""))]) := by
  cases p <;> simp only [step, hp, beq_self_eq_true, if_true] <;> rfl

theorem step_searched {t : Resolution} (hp : d.pending = some (call, .search question t))
    (said : Except Trouble Unit) (now : Moment) :
    d.step (.searched call said now) =
      match said with
      | .error trouble => d.refuse call (trouble.within searchFailed)
      | .ok () => d.conclude call question t now := by
  cases said with
  | error trouble => simp only [step, hp, beq_self_eq_true, if_true]
  | ok => simp only [step, hp, beq_self_eq_true, if_true]

/-! ## The other events -/

theorem step_admitted (hidle : d.busy = false) (call : Nat) (v : Json) (config : ClientConfig) :
    d.step (.ask call v config) = d.accept call v config := by
  rw [step, if_neg (by simp [hidle])]

theorem step_answer_late {answer : Answer} {now : Moment}
    (h : d.isLate (.answer call answer now) = true) :
    d.step (.answer call answer now) = d.answerLate call answer := by
  rcases hp : d.pending with _ | ⟨waiting, ⟨question, m, adapter⟩ | ⟨question, t⟩⟩
  · simp only [step, hp]
  · have hne : ¬ waiting = call := by simpa [isLate, hp] using h
    simp only [step, hp, beq_iff_eq, hne, if_false]
  · simp only [step, hp]

/-- An event that is no call, that nobody awaits and that is no late answer does
    nothing. -/
theorem step_passes (ha : e.isAsk = false) (hl : d.isLate e = false) (hw : ¬ d.Awaits e) :
    d.step e = (d, []) := by
  cases e with
  | ask => cases ha
  | answer call answer now =>
    -- an answer that is not late is awaited
    rcases hp : d.pending with _ | ⟨waiting, ⟨question, m, adapter⟩ | ⟨question, t⟩⟩
    · simp [isLate, hp] at hl
    · obtain rfl : waiting = call := by simpa [isLate, hp] using hl
      exact absurd (.answer waiting question m adapter answer now hp) hw
    · simp [isLate, hp] at hl
  | expire call =>
    rcases hp : d.pending with _ | ⟨waiting, ⟨question, m, adapter⟩ | ⟨question, t⟩⟩
    · simp only [step, hp]
    · rcases hs : d.rules.deadline with _ | seconds | fault
      · simp only [step, hp, hs, Deadline.seconds?]
      · have hne : ¬ waiting = call := by
          rintro rfl
          exact hw (.expire waiting question m adapter seconds hp hs)
        simp only [step, hp, hs, Deadline.seconds?, beq_iff_eq, hne, if_false]
      · simp only [step, hp, hs, Deadline.seconds?]
    · simp only [step, hp]
  | withdraw call =>
    rcases hp : d.pending with _ | ⟨waiting, p⟩
    · simp only [step, hp]
    · have hne : ¬ waiting = call := by
        rintro rfl
        exact hw (.withdraw waiting p hp)
      cases p <;> simp only [step, hp, beq_iff_eq, hne, if_false]
  | searched call said now =>
    rcases hp : d.pending with _ | ⟨waiting, ⟨question, m, adapter⟩ | ⟨question, t⟩⟩
    · simp only [step, hp]
    · simp only [step, hp]
    · have hne : ¬ waiting = call := by
        rintro rfl
        exact hw (.searched waiting question t said now hp)
      simp only [step, hp, beq_iff_eq, hne, if_false]

end Desk

end SpanQuest
