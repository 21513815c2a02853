/-
  The only call of a desk.

  Who consults a desk asks it once, and lets the backend answer what was posted.
  The desk has a deadline and no search service, so that nothing is left to wait
  for: the call ends, once, with a resolution that was made of the reply, or
  with a failure.

  * `consult_eq_serveModel`: to consult a desk is to follow its call;
  * `consult_ends`: how the call ends;
  * `resultOf_eq`, `postsOf_eq`: what a command makes of the effects.
-/
import SpanQuest.CommandLine.Run
import SpanQuest.Proofs.Desk.Call
import SpanQuest.Proofs.Desk.Payload

namespace SpanQuest

open Backend

namespace CommandLine

variable {d : Desk} {question : String} {config : ClientConfig} {now : Moment}
  {respond : Post → Option Answer}

/-! ## Effects -/

theorem resultOf_eq (effects : List DeskEffect) :
    resultOf effects = ((endings effects).map Prod.snd).head? := by
  unfold resultOf endings
  rw [List.map_filterMap, List.head?_filterMap]
  congr 1
  funext e
  cases e <;> rfl

theorem postsOf_requests {call : Nat} {post : Post} :
    postsOf [DeskEffect.send call post] = [post] := rfl

/-! ## A free desk -/

/-- On a free desk that has abandoned nothing an answer does nothing, nor does a
    deadline. -/
theorem step_eventsOf (hidle : d.pending = none) (hleft : d.abandoned = []) (now : Moment)
    (answer : Option Answer) : d.step (eventsOf now answer) = (d, []) := by
  cases answer with
  | none => simp only [eventsOf, Desk.step, hidle]
  | some answer => simp only [eventsOf, Desk.step, hidle, Desk.answerLate, hleft, List.find?_nil]

theorem run_eventsOf (hidle : d.pending = none) (hleft : d.abandoned = []) (now : Moment)
    (respond : Post → Option Answer) (posts : List Post) :
    d.run (posts.map fun post => eventsOf now (respond post)) = (d, []) := by
  induction posts with
  | nil => rfl
  | cons post posts ih =>
    rw [List.map_cons, Desk.run_cons, step_eventsOf hidle hleft, ih]
    rfl

/-! ## The call -/

/-- **To consult a desk is to follow its call**, where the backend answers what was
    posted. -/
theorem consult_eq_serveModel (hidle : d.busy = false) (hleft : d.abandoned = [])
    (question : String) (config : ClientConfig) (now : Moment) (respond : Post → Option Answer) :
    ∃ o, consult d question config now respond = d.serveModel 0 (.text question) config o := by
  have h : Desk.Turn d 0 question (.asking d 0 question config)
      (d.step (.ask 0 (.text question) config)) := by
    rw [Desk.step_admitted hidle]
    exact Desk.accept_turn rfl d 0 config
  unfold consult Desk.serveModel
  generalize d.step (.ask 0 (.text question) config) = r at h
  cases h with
  | resolved t now prompts shelf requests ht => exact ht.elim
  | withdrawn p reason prompts requests hw => exact hw.elim
  | failed f query prompts shelf requests hf hq hs hr =>
    -- whatever was posted, nobody waits for the answer
    refine ⟨⟨none, .ok (), now⟩, ?_⟩
    dsimp only
    rw [Desk.goOn_none rfl, run_eventsOf]
    · rfl
    · exact hleft
  | waits p prompts requests hp hr =>
    obtain ⟨-, m, adapter, post, rfl, -, rfl⟩ := hp
    refine ⟨⟨(respond post).map fun answer => (answer, now), .ok (), now⟩, ?_⟩
    dsimp only
    rw [Desk.goOn_some rfl, postsOf_requests, List.map_cons, List.map_nil, Desk.run_singleton]
    cases respond post <;> rfl

/-- **The only call of a desk ends, once**: with a resolution that was made of the
    reply, or with a failure. -/
theorem consult_ends (hidle : d.busy = false) (hleft : d.abandoned = [])
    (hdeadline : d.rules.deadline ≠ .never) (hsearches : d.rules.searches = false)
    (question : String) (config : ClientConfig) (now : Moment) (respond : Post → Option Answer) :
    ∃ result, endings (consult d question config now respond).2 = [(0, result)] ∧
      ((∃ t : Resolution, result = .ok t ∧ t.Drawn) ∨ ∃ f, result = .error (.failure f)) := by
  have hdraws : Desk.Draws (consult d question config now respond) :=
    Desk.run_draws hidle (.ask 0 (.text question) config :: _)
  obtain ⟨o, ho⟩ := consult_eq_serveModel hidle hleft question config now respond
  rw [ho] at hdraws ⊢
  obtain ⟨left, h⟩ := Desk.serveModel_turn hidle (fun _ => hdeadline) 0 question config (o := o)
  generalize d.serveModel 0 (.text question) config o = r at h hdraws
  cases h with
  | withdrawn p reason prompts requests hw => exact hw.elim
  | waits p prompts requests hp hr =>
    obtain ⟨t, -, hs, -⟩ := hp
    exact absurd (hs.symm.trans hsearches) (by decide)
  | resolved t now prompts shelf requests ht hk hr =>
    have hends := endings_requests_finish hr 0 (.ok t)
    exact ⟨.ok t, hends, Or.inl ⟨t, rfl, hdraws.tells 0 t (by rw [hends]; simp)⟩⟩
  | failed f query prompts shelf requests hf hq hs hr =>
    exact ⟨_, endings_requests_finish hr 0 _, Or.inr ⟨f, rfl⟩⟩

end CommandLine

end SpanQuest
