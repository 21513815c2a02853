/-
  What is no question.

  A value is a question if it is a text with a character that is not blank.  What
  a desk makes of another value depends on its kind.  A text, and a value that does
  not count as present, is turned down as a blank question: the caller is told of a
  failure of the configuration, and the outcome is a new one that tells it.  Any
  other value is rejected before there is an outcome for it: the caller is told of
  no failure, and the outcome is still that of the request before.

  * `run_sameButOutcome`: on a desk that is free the outcome makes no difference to
    what happens later;
  * `Unnoticed`: a call that ended at once, and made no difference to anyone else;
  * `ask_no_question`: what becomes of a value that is no question;
  * `ask_number`: a value that is neither a text nor turned down.
-/
import SpanQuest.Proofs.Desk.Stage

namespace SpanQuest

/-- The value is a question: a text with a character that is not blank. -/
def Json.IsQuestion (v : Json) : Prop :=
  ∃ s, v = .text s ∧ Text.hasInk s = true

namespace Desk

variable {d : Desk} {v : Json} {config : ClientConfig} {call : Nat}

/-! ## The outcome of a desk that is free -/

theorem pending_eq_none (hidle : d.busy = false) : d.pending = none := by
  simpa [busy] using hidle

/-- A step of a desk that is free does not depend on its outcome, and either replaces
    it or leaves the desk free. -/
theorem step_sameButOutcome (hfree : d.pending = none) (o : Outcome) (e : DeskEvent) :
    ∃ o', ({ d with outcome := o } : Desk).step e =
        ({ (d.step e).1 with outcome := o' }, (d.step e).2) ∧
      (o' = (d.step e).1.outcome ∨ (d.step e).1.pending = none) := by
  cases e with
  | ask call v config =>
    have hidle : d.busy = false := by simp [busy, hfree]
    have hidle' : ({ d with outcome := o } : Desk).busy = false := hidle
    rw [step_admitted hidle, step_admitted hidle']
    unfold accept
    rcases questionText v with r | question
    · exact ⟨o, rfl, Or.inr hfree⟩
    · exact ⟨_, rfl, Or.inl rfl⟩
  | answer call answer now =>
    have hlate (d' : Desk) (h : d'.pending = none) :
        d'.step (.answer call answer now) = d'.answerLate call answer :=
      step_answer_late (by simp [isLate, h])
    rw [hlate d hfree, hlate { d with outcome := o } hfree]
    unfold answerLate
    dsimp only
    split
    · exact ⟨o, rfl, Or.inr hfree⟩
    · exact ⟨o, rfl, Or.inr hfree⟩
  | expire | withdraw | searched =>
    simp only [step, hfree]
    exact ⟨o, rfl, Or.inr trivial⟩

/-- **What happens to a desk that is free does not depend on its outcome.** -/
theorem run_sameButOutcome (hfree : d.pending = none) (o : Outcome) (es : List DeskEvent) :
    ∃ o', ({ d with outcome := o } : Desk).run es =
      ({ (d.run es).1 with outcome := o' }, (d.run es).2) := by
  induction es generalizing d o with
  | nil => exact ⟨o, rfl⟩
  | cons e es ih =>
    obtain ⟨o', hstep, hsame | hfree'⟩ := step_sameButOutcome hfree o e
    · -- from here on both desks are the same
      rw [run_cons, run_cons, hstep, hsame]
      exact ⟨_, rfl⟩
    · obtain ⟨o'', hrun⟩ := ih hfree' o'
      rw [run_cons, run_cons, hstep]
      dsimp only
      rw [hrun]
      exact ⟨o'', rfl⟩

/-! ## Values that are no question -/

/-- What a caller is told whose question is no text. -/
def notText : Rejection :=
  ⟨"QueryOutcome", [⟨.wantsText, ["question"]⟩]⟩

/-- **The call ended at once with a trouble, and nobody else notices it**: whatever
    happens afterwards has the effects that it has without the call, and comes to the
    same shelf, the same prompts and all else, but for the outcome. -/
def Unnoticed (d : Desk) (call : Nat) (v : Json) (config : ClientConfig) (t : Trouble) : Prop :=
  ∀ es, ∃ o, d.run (.ask call v config :: es) =
    ({ (d.run es).1 with outcome := o }, .finish call (.error t) :: (d.run es).2)

theorem unnoticed_of_step (hidle : d.busy = false) {o : Outcome} {t : Trouble}
    (h : d.step (.ask call v config) = ({ d with outcome := o }, [.finish call (.error t)])) :
    d.Unnoticed call v config t := by
  intro es
  obtain ⟨o', hrun⟩ := run_sameButOutcome (pending_eq_none hidle) o es
  rw [run_cons, h, hrun]
  exact ⟨o', rfl⟩

/-- A value that is turned down is a text, or does not count as present. -/
theorem questionText_of_no_question (h : v.text?.isSome = true ∨ v.isTruthy = false) :
    questionText v = .ok (v.text?.getD "") := by
  unfold questionText
  split
  · rfl
  · next hnot =>
    cases v with
    | text s => exact absurd rfl (hnot s)
    | null => rfl
    | bool | int | double | array | object =>
      rcases h with h | h
      · cases h
      · rw [if_neg (by simp [h])]
        rfl

theorem allBlank_of_no_question (hv : ¬ v.IsQuestion) :
    Text.allBlank (v.text?.getD "") = true := by
  cases v with
  | text s =>
    show Text.allBlank s = true
    by_contra hink
    exact hv ⟨s, rfl, by simpa [Text.hasInk] using hink⟩
  | null | bool | int | double | array | object => rfl

theorem step_of_blank (hidle : d.busy = false) (hv : ¬ v.IsQuestion)
    (h : v.text?.isSome = true ∨ v.isTruthy = false) (call : Nat) (config : ClientConfig) :
    d.step (.ask call v config) =
      ({ d with outcome := .failed (v.text?.getD "") none .blankQuestion },
        [.finish call (.error (.failure .blankQuestion))]) := by
  rw [step_admitted hidle]
  unfold accept
  rw [questionText_of_no_question h]
  dsimp only
  unfold prepare
  rw [if_pos (allBlank_of_no_question hv)]
  dsimp only
  rw [refuse_of_within rfl, ← pending_eq_none hidle]
  rfl

theorem step_of_kind (hidle : d.busy = false) (htext : v.text? = none) (htruthy : v.isTruthy = true)
    (call : Nat) (config : ClientConfig) :
    d.step (.ask call v config) = (d, [.finish call (.error (.rejected notText))]) := by
  have hrejected : questionText v = .error notText := by
    unfold questionText
    split
    · cases htext
    · rw [if_pos htruthy]
      rfl
  rw [step_admitted hidle]
  unfold accept
  rw [hrejected]

/-- **What becomes of a value that is no question**, on a desk that is free.  In no
    case does anybody else notice the call: nothing is posted, nothing is searched
    for, and the history is as it was.  A text, and a value that does not count as
    present, is a failure of the configuration, and the outcome is a new one that
    tells it.  Any other value is none, and the outcome stays what it was. -/
theorem ask_no_question (hidle : d.busy = false) (hv : ¬ v.IsQuestion) (call : Nat)
    (config : ClientConfig) :
    (v.text?.isSome = true ∨ v.isTruthy = false →
      d.Unnoticed call v config (.failure .blankQuestion) ∧
        (d.step (.ask call v config)).1.outcome = {
          stage := .done
          question := v.text?.getD ""
          errorKind := some "ConfigurationError"
          errorMessage := some "Please enter a question"
          query := none
          filters := none }) ∧
      (v.text? = none → v.isTruthy = true →
        d.Unnoticed call v config (.rejected notText) ∧
          (d.step (.ask call v config)).1 = d) := by
  refine ⟨fun h => ?_, fun htext htruthy => ?_⟩
  · have hstep := step_of_blank hidle hv h call config
    refine ⟨unnoticed_of_step hidle hstep, ?_⟩
    rw [hstep]
    rfl
  · have hstep := step_of_kind hidle htext htruthy call config
    refine ⟨unnoticed_of_step hidle hstep, ?_⟩
    rw [hstep]

/-- A desk whose latest request has timed out. -/
def timedOut : Desk :=
  (sample.run expiredCall).1

theorem busy_timedOut : timedOut.busy = false := by
  decide +kernel

theorem errorKind_timedOut : timedOut.outcome.errorKind = some "TimeoutError" := by
  decide +kernel

theorem not_isQuestion_of_text?_eq_none (h : v.text? = none) : ¬ v.IsQuestion := by
  rintro ⟨s, rfl, -⟩
  cases h

/-- A value that does not count as present replaces the outcome of a timeout. -/
theorem ask_no_question_false : timedOut.busy = false ∧ ¬ (Json.bool false).IsQuestion ∧
    timedOut.Unnoticed 1 (.bool false) sampleConfig (.failure .blankQuestion) ∧
    (timedOut.step (.ask 1 (.bool false) sampleConfig)).1.outcome =
      ⟨.done, "", some "ConfigurationError", some "Please enter a question", none, none⟩ := by
  have hv := not_isQuestion_of_text?_eq_none (v := .bool false) rfl
  exact ⟨busy_timedOut, hv, (ask_no_question busy_timedOut hv 1 sampleConfig).1 (Or.inr rfl)⟩

/-- **A number is rejected, and the outcome still tells of the timeout before it.** -/
theorem ask_number : timedOut.busy = false ∧ ¬ (Json.int 5).IsQuestion ∧
    timedOut.step (.ask 1 (.int 5) sampleConfig) =
      (timedOut, [.finish 1 (.error (.rejected notText))]) ∧
    timedOut.outcome.errorKind = some "TimeoutError" :=
  ⟨busy_timedOut, not_isQuestion_of_text?_eq_none rfl,
    step_of_kind busy_timedOut rfl rfl 1 sampleConfig, errorKind_timedOut⟩

end Desk

end SpanQuest
