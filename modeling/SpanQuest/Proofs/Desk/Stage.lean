/-
  The stage of a desk that is free.

  The outcome of a desk tells the stage of its latest call, and a call that has
  ended should be done.  It is, if it ended well or failed: both set the stage.
  A withdrawal does not.  It frees the desk and leaves the outcome as it was
  while the call waited.

  * `Tells`: what the last ending says about the stage;
  * `run_tells`: it holds whenever the desk is free;
  * `run_stage_iff`: a desk that is free is idle or done exactly if its latest
    call was not withdrawn.
-/
import SpanQuest.Proofs.Desk.Step

namespace SpanQuest

open Backend

/-- The call was rejected before it began: its question is no text. -/
def isRejection : Except Trouble Resolution → Bool
  | .error (.rejected _) => true
  | _ => false

/-- How the calls that began have ended, in order. -/
def outcomesTold (effects : List DeskEffect) : List (Except Trouble Resolution) :=
  ((endings effects).map Prod.snd).filter fun result => !isRejection result

/-- How the latest of them has ended. -/
def lastTold (effects : List DeskEffect) : Option (Except Trouble Resolution) :=
  (outcomesTold effects).getLast?

theorem lastTold_append_of_nil (xs : List DeskEffect) {ys : List DeskEffect}
    (h : outcomesTold ys = []) : lastTold (xs ++ ys) = lastTold xs := by
  unfold lastTold
  have happend : outcomesTold (xs ++ ys) = outcomesTold xs ++ outcomesTold ys := by
    unfold outcomesTold
    rw [endings_append, List.map_append, List.filter_append]
  rw [happend, h, List.append_nil]

theorem lastTold_append_of_ending (xs : List DeskEffect) {ys : List DeskEffect} {call : Nat}
    {result : Except Trouble Resolution} (h : endings ys = [(call, result)])
    (hr : isRejection result = false) : lastTold (xs ++ ys) = some result := by
  unfold lastTold outcomesTold
  rw [endings_append, List.map_append, List.filter_append, h]
  simp [hr]

/-- What the last ending says about the stage of a desk that is free. -/
def Tells (last : Option (Except Trouble Resolution)) (stage : RequestStage) : Prop :=
  match last with
  | none => stage = .idle
  | some (.error (.withdrawn _)) => stage = .awaitingModel ∨ stage = .compiling
  | some _ => stage = .done

theorem Tells.stage_iff {last : Option (Except Trouble Resolution)} {stage : RequestStage}
    (h : Tells last stage) :
    (stage = .idle ∨ stage = .done) ↔ ∀ reason, last ≠ some (.error (.withdrawn reason)) := by
  unfold Tells at h
  split at h
  · exact iff_of_true (Or.inl h) (by simp)
  · rename_i reason
    refine iff_of_false ?_ (fun hne => hne reason rfl)
    rcases h with rfl | rfl <;> simp
  · rename_i result hne
    refine iff_of_true (Or.inr h) fun reason hw => ?_
    cases hw
    exact hne reason rfl

namespace Desk

variable {d : Desk} {call : Nat} {question : String} {terms : Terms}

theorem Turn.tells {r : Desk × List DeskEffect} (h : Turn d call question terms r)
    (hidle : r.1.busy = false) (effects : List DeskEffect) :
    Tells (lastTold (effects ++ r.2)) r.1.outcome.stage := by
  cases h with
  | waits => cases hidle
  | resolved t now prompts shelf requests ht hk hr =>
    rw [lastTold_append_of_ending effects (endings_requests_finish hr call (.ok t)) rfl]
    rfl
  | failed f query prompts shelf requests hf hq hs hr =>
    rw [lastTold_append_of_ending effects
      (endings_requests_finish hr call (.error (.failure f))) rfl]
    rfl
  | withdrawn p reason prompts requests hw hr =>
    rw [lastTold_append_of_ending effects
      (endings_requests_finish hr call (.error (.withdrawn reason))) rfl]
    cases p with
    | model => exact Or.inl rfl
    | search => exact Or.inr rfl

theorem step_tells {effects : List DeskEffect} (hd : d.Sound)
    (h : d.busy = false → Tells (lastTold effects) d.outcome.stage) (e : DeskEvent)
    (hidle : (d.step e).1.busy = false) :
    Tells (lastTold (effects ++ (d.step e).2)) (d.step e).1.outcome.stage := by
  have hc := step_change hd e
  generalize d.step e = r at hc hidle
  cases hc with
  | turnedAway _ _ _ hb => rw [hidle] at hb; cases hb
  | rejected =>
    rw [lastTold_append_of_nil effects rfl]
    exact h hidle
  | begins _ _ _ _ _ _ ht => exact ht.tells hidle effects
  | goesOn _ _ _ _ _ _ _ _ _ _ _ ht => exact ht.tells hidle effects
  | late _ _ _ _ discards _ _ hdiscards =>
    have hnil : outcomesTold discards = [] := by
      unfold outcomesTold
      rw [hdiscards.endings]
      rfl
    rw [lastTold_append_of_nil effects hnil]
    exact h hidle
  | passes =>
    rw [List.append_nil]
    exact h hidle

/-- Whenever a desk is free that was fresh at the start, its stage is told. -/
theorem run_tells (rules : DeskRules) (prompts : Prompt.Registry) (shelf : Shelf)
    (es : List DeskEvent) (hidle : ((fresh rules prompts shelf).run es).1.busy = false) :
    Tells (lastTold ((fresh rules prompts shelf).run es).2)
      ((fresh rules prompts shelf).run es).1.outcome.stage := by
  refine run_induction (d := fresh rules prompts shelf) (P := fun _ effects d =>
    d.busy = false → Tells (lastTold effects) d.outcome.stage) (sound_of_idle rfl) ?_ ?_ es hidle
  · exact fun _ => rfl
  · intro es effects d e hd htells
    exact step_tells hd htells e

/-- **The stage of a free desk**: it is idle or done exactly if the latest call
    was not withdrawn. -/
theorem run_stage_iff (rules : DeskRules) (prompts : Prompt.Registry) (shelf : Shelf)
    (es : List DeskEvent) (hidle : ((fresh rules prompts shelf).run es).1.busy = false) :
    (((fresh rules prompts shelf).run es).1.outcome.stage = .idle ∨
        ((fresh rules prompts shelf).run es).1.outcome.stage = .done) ↔
      ∀ reason, lastTold ((fresh rules prompts shelf).run es).2 ≠
        some (.error (.withdrawn reason)) :=
  (run_tells rules prompts shelf es hidle).stage_iff

/-- A call whose deadline passes. -/
def expiredCall : List DeskEvent :=
  [.ask 0 (.text "slow requests") sampleConfig, .expire 0]

/-- A call whose caller withdraws. -/
def withdrawnCall : List DeskEvent :=
  [.ask 0 (.text "slow requests") sampleConfig, .withdraw 0]

theorem run_stage_iff_expired :
    ((fresh sample.rules sample.prompts sample.shelf).run expiredCall).1.busy = false ∧
      ((((fresh sample.rules sample.prompts sample.shelf).run expiredCall).1.outcome.stage = .idle ∨
          ((fresh sample.rules sample.prompts sample.shelf).run expiredCall).1.outcome.stage =
            .done) ↔
        ∀ reason, lastTold ((fresh sample.rules sample.prompts sample.shelf).run expiredCall).2 ≠
          some (.error (.withdrawn reason))) := by
  have hidle :
      ((fresh sample.rules sample.prompts sample.shelf).run expiredCall).1.busy = false := by
    decide +kernel
  exact ⟨hidle, run_stage_iff _ _ _ _ hidle⟩

/-- The desk is free after a call was withdrawn, and yet it is neither idle nor
    done: it awaits the model still. -/
theorem stage_of_withdrawn :
    (sample.run withdrawnCall).1.busy = false ∧
      ¬ ((sample.run withdrawnCall).1.outcome.stage = .idle ∨
        (sample.run withdrawnCall).1.outcome.stage = .done) ∧
      (sample.run withdrawnCall).1.outcome.stage = .awaitingModel := by
  have hidle : (sample.run withdrawnCall).1.busy = false := by
    decide +kernel
  have hstage : (sample.run withdrawnCall).1.outcome.stage = .awaitingModel := by
    decide +kernel
  refine ⟨hidle, ?_, hstage⟩
  rw [hstage]
  simp

end Desk

end SpanQuest
