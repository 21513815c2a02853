/-
  What a call leaves alone.

  The operations of a call look neither at what the desk waits for nor at its
  abandoned exchanges, once they know their own adapter: another call that waits
  is overwritten, and other exchanges stay as they are.

  * `carrying`: a desk with another call that waits and other exchanges, and
    `leaving`: what an operation comes to with other exchanges;
  * `refuse_carrying`, `conclude_carrying`, `resume_carrying`: an operation of a
    call on such a desk.
-/
import SpanQuest.Request.Desk

namespace SpanQuest

open Backend

namespace Desk

/-- The desk with another call that waits, and other abandoned exchanges. -/
def carrying (d : Desk) (p : Option (Nat × Pending)) (left : List Abandoned) : Desk :=
  { d with pending := p, abandoned := left }

/-- What a step comes to, with other abandoned exchanges. -/
def leaving (left : List Abandoned) (r : Desk × List DeskEffect) : Desk × List DeskEffect :=
  ({ r.1 with abandoned := left }, r.2)

section

variable (d : Desk) (p : Option (Nat × Pending)) (left : List Abandoned) (call : Nat)
  (question : String) (now : Moment)

theorem refuse_carrying (t : Trouble) :
    (d.carrying p left).refuse call t = leaving left (d.refuse call t) := by
  unfold refuse
  cases t.within unexpected <;> rfl

theorem remember_carrying :
    (d.carrying p left).remember question now =
      ((d.remember question now).1, (d.remember question now).2.carrying p left) := by
  unfold remember carrying
  dsimp only
  cases d.rules.history <;> rfl

theorem conclude_carrying (t : Resolution) :
    (d.carrying p left).conclude call question t now =
      leaving left (d.conclude call question t now) := by
  unfold conclude
  rw [remember_carrying]
  rcases d.remember question now with ⟨trouble | ⟨⟨⟩⟩, d'⟩
  · exact refuse_carrying d' p left call trouble
  · rfl

theorem resolve_carrying (completion : Completion) :
    (d.carrying p left).resolve call question completion now =
      leaving left (d.resolve call question completion now) := by
  unfold resolve
  dsimp only [atStage, carrying]
  rcases Reply.queryOf completion.text question with t | query
  · exact refuse_carrying (d.atStage .extracting) p left call t
  · dsimp only
    let d' := { d with outcome := { d.outcome with query := some query, stage := .compiling } }
    rcases SearchRequest.build (Filters.ofQuery query) now d.rules.lookback d.rules.limit
      with f | request
    · exact refuse_carrying d' p left call (.fault f)
    · dsimp only
      by_cases hs : d.rules.searches = true
      · rw [if_pos hs, if_pos hs]
        rfl
      · rw [if_neg hs, if_neg hs]
        exact conclude_carrying d' p left call question now
          ⟨query, Filters.ofQuery query, completion, request⟩

/-- **An answer does the same to the call it is for**, whatever the desk carries. -/
theorem resume_carrying (m : ModelIdentity) (adapter : Adapter) (answer : Answer) :
    (d.carrying p left).resume call question m adapter answer now =
      leaving left (d.resume call question m adapter answer now) := by
  unfold resume
  rcases Gateway.completionFrom adapter m answer with t | completion
  · exact refuse_carrying d p left call t
  · exact resolve_carrying d p left call question now completion

/-! ## What stays -/

theorem abandoned_of_leaving {r : Desk × List DeskEffect} {left : List Abandoned}
    (h : r = leaving left r) : r.1.abandoned = left := by
  rw [h]
  rfl

theorem abandoned_refuse (t : Trouble) : (d.refuse call t).1.abandoned = d.abandoned :=
  abandoned_of_leaving (refuse_carrying d d.pending d.abandoned call t)

theorem abandoned_conclude (t : Resolution) :
    (d.conclude call question t now).1.abandoned = d.abandoned :=
  abandoned_of_leaving (conclude_carrying d d.pending d.abandoned call question now t)

theorem abandoned_resume (m : ModelIdentity) (adapter : Adapter) (answer : Answer) :
    (d.resume call question m adapter answer now).1.abandoned = d.abandoned :=
  abandoned_of_leaving
    (resume_carrying d d.pending d.abandoned call question now m adapter answer)

end

end Desk

end SpanQuest
