/-
  Where withdrawals come from.

  Inside a request every trouble but a withdrawal becomes a failure.  A caller
  withdraws a call, or its search service does; nothing that the desk does by
  itself, and no answer to one who still waits, is a withdrawal
  (`completionFrom_not_withdrawn`, `queryOf_not_withdrawn`).  Neither does the
  desk by itself ever report that it is busy (`questionPrompt_ordinary`,
  `validate_ordinary`).
-/
import SpanQuest.Backend.Gateway
import SpanQuest.Prompt.Registry
import SpanQuest.Query.Reply

namespace SpanQuest

open Backend

namespace Trouble

/-- The caller no longer waits. -/
def isWithdrawal : Trouble → Bool
  | withdrawn _ => true
  | _ => false

/-- Neither a withdrawal nor a busy desk. -/
def isOrdinary : Trouble → Bool
  | withdrawn _ | failure (.busy _) => false
  | _ => true

theorem within_of_not_withdrawal (activity : String) {t : Trouble} (h : t.isWithdrawal = false) :
    ∃ f, t.within activity = failure f := by
  rcases within_cases activity t with hf | ⟨r, hr⟩
  · exact hf
  · cases t <;> simp_all [within, isWithdrawal]

/-- Inside an activity an ordinary trouble is a failure that tells of no busy desk. -/
theorem within_of_ordinary (activity : String) {t : Trouble} (h : t.isOrdinary = true) :
    ∃ f, t.within activity = failure f ∧ f.httpStatus ≠ 409 := by
  cases t with
  | failure f =>
    refine ⟨f, rfl, ?_⟩
    rw [Ne, Failure.httpStatus_eq_409_iff]
    rintro ⟨m, rfl⟩
    simp [isOrdinary] at h
  | fault f => exact ⟨_, rfl, by simp [Failure.httpStatus]⟩
  | rejected r => exact ⟨_, rfl, by simp [Failure.httpStatus]⟩
  | withdrawn r => simp [isOrdinary] at h

end Trouble

/-! ## Before the post -/

theorem fillIn_ordinary {template : Json} {values : Mapping String} {t : Trouble}
    (h : Prompt.Registry.fillIn template values = .error t) : t.isOrdinary = true := by
  unfold Prompt.Registry.fillIn at h
  split at h
  · split at h
    · cases h; rfl
    · split at h <;> cases h
      rfl
  · cases h; rfl

theorem entry_ordinary {r : Prompt.Registry} {name : String} {t : Trouble}
    (h : (r.entry name).1 = .error t) : t.isOrdinary = true := by
  unfold Prompt.Registry.entry Prompt.Registry.afterLoad at h
  split at h
  · cases h; rfl
  · dsimp only at h
    split at h <;> cases h
    rfl

theorem questionPrompt_ordinary {r : Prompt.Registry} {question : String} {t : Trouble}
    (h : (r.questionPrompt question).1 = .error t) : t.isOrdinary = true := by
  unfold Prompt.Registry.questionPrompt Prompt.Registry.render at h
  split at h
  · cases h; rfl
  · split at h
    · next t' r' he =>
      cases h
      exact entry_ordinary (by rw [he])
    · exact fillIn_ordinary h

theorem validate_ordinary {config : ClientConfig} {f : Failure}
    (h : Gateway.validate config = .error f) : (Trouble.failure f).isOrdinary = true := by
  unfold Gateway.validate at h
  split at h
  · cases h; rfl
  · split at h <;> cases h
    rfl

/-! ## After the answer -/

theorem textOf_not_withdrawn {a : Adapter} {status : Int} {body : ByteArray} {t : Trouble}
    (h : a.textOf status body = .error t) : t.isWithdrawal = false := by
  unfold Adapter.textOf at h
  split at h
  · cases h; rfl
  · next members _ =>
    split at h
    · rcases ht : Hosted.textOf (.object members) with f | v <;> rw [ht] at h <;> cases h
      rfl
    · cases h
  · cases h; rfl

theorem read_not_withdrawn {a : Adapter} {status : Int} {body : ByteArray} {t : Trouble}
    (h : a.read status body = .error t) : t.isWithdrawal = false := by
  unfold Adapter.read at h
  split at h
  · exact textOf_not_withdrawn h
  · split at h <;> cases h <;> rfl

/-- Who still waits for an answer is not told of a withdrawal. -/
theorem receive_fresh_not_withdrawn {a : Adapter} {answer : Answer} {t : Trouble}
    (h : a.receive .fresh answer = .error t) : t.isWithdrawal = false := by
  unfold Adapter.receive at h
  split at h
  · cases h; rfl
  · cases h; rfl
  · cases h; rfl
  · split at h
    · cases h; rfl
    · rw [Token.check_fresh] at h
      exact read_not_withdrawn h

theorem completionFrom_not_withdrawn {a : Adapter} {m : ModelIdentity} {answer : Answer}
    {t : Trouble} (h : Gateway.completionFrom a m answer = .error t) : t.isWithdrawal = false := by
  unfold Gateway.completionFrom at h
  split at h
  · next t' he =>
    cases h
    exact receive_fresh_not_withdrawn he
  · unfold Gateway.completionOf at h
    split at h <;> cases h
    rfl

theorem queryOf_not_withdrawn {reply question : String} {t : Trouble}
    (h : Reply.queryOf reply question = .error t) : t.isWithdrawal = false := by
  unfold Reply.queryOf at h
  rcases ho : Reply.objectOf reply with t' | v
  · rw [ho] at h
    cases h
    unfold Reply.objectOf at ho
    split at ho
    · cases ho; rfl
    · split at ho <;> cases ho <;> rfl
  · rw [ho] at h; cases h

end SpanQuest
