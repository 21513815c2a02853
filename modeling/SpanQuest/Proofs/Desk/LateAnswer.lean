/-
  Late answers.

  An answer is late if its call does not wait for the model: its deadline has
  passed, its caller has withdrawn, or it has had an answer already.  Nothing
  comes of it.  A run with late answers is the run without them, whenever they
  come and whatever they are.

  * `standing`: a desk but for its abandoned exchanges; no operation of a call
    looks at those (`accept_standing`, `resume_standing`, `conclude_standing`);
  * `punctual`: the events of a run without the late answers, and `heard`: the
    effects that somebody hears of;
  * `run_punctual`: the punctual events lead to the same standing, with the
    effects that are heard;
  * `step_abandoned`: the token of every abandoned exchange is tripped;
  * `run_undisturbed`: all of it, for every run of a desk nobody has asked yet.
-/
import SpanQuest.Proofs.Desk.Exclusion
import SpanQuest.Proofs.Desk.Frame

namespace SpanQuest

open Backend

theorem Backend.Token.eq_trip {token : Token} (h : token.tripped = true) :
    token = Token.fresh.trip token.reason := by
  cases token
  cases h
  rfl

/-- Somebody hears of the effect. -/
def DeskEffect.isHeard : DeskEffect → Bool
  | discard .. => false
  | _ => true

/-- The effects that somebody hears of. -/
def heard (effects : List DeskEffect) : List DeskEffect :=
  effects.filter DeskEffect.isHeard

theorem heard_append (xs ys : List DeskEffect) : heard (xs ++ ys) = heard xs ++ heard ys :=
  List.filter_append xs ys

theorem heard_of_requests {effects : List DeskEffect} (h : ∀ e ∈ effects, e.isRequest = true) :
    heard effects = effects := by
  refine List.filter_eq_self.2 fun e he => ?_
  have hr := h e he
  cases e with
  | send | search | finish => rfl
  | discard => cases hr

namespace Desk

variable {d : Desk} {call : Nat} {question : String} {terms : Terms}

/-! ## Standing -/

/-- A desk but for its abandoned exchanges. -/
def standing (d : Desk) : Desk :=
  { d with abandoned := [] }

/-- The standing after a step, with its effects. -/
def stand (r : Desk × List DeskEffect) : Desk × List DeskEffect :=
  (r.1.standing, r.2)

theorem isLate_standing (d : Desk) (e : DeskEvent) : d.standing.isLate e = d.isLate e := by
  cases e <;> rfl

theorem refuse_standing (d : Desk) (call : Nat) (t : Trouble) :
    d.standing.refuse call t = stand (d.refuse call t) :=
  refuse_carrying d d.pending [] call t

theorem conclude_standing (d : Desk) (call : Nat) (question : String) (t : Resolution)
    (now : Moment) :
    d.standing.conclude call question t now = stand (d.conclude call question t now) :=
  conclude_carrying d d.pending [] call question now t

theorem prepare_standing (d : Desk) (question : String) (config : ClientConfig) :
    d.standing.prepare question config =
      ((d.prepare question config).1, (d.prepare question config).2.standing) := by
  unfold prepare
  by_cases hb : Text.allBlank question = true
  · rw [if_pos hb, if_pos hb]
  · rw [if_neg hb, if_neg hb]
    rcases Gateway.validate config with f | m
    · rfl
    · rfl

theorem refuseWaiting_standing (d : Desk) (call : Nat) (f : Fault) (post : Except Fault Post) :
    d.standing.refuseWaiting call f post = stand (d.refuseWaiting call f post) := by
  unfold refuseWaiting
  rw [refuse_standing]
  rfl

theorem accept_standing (d : Desk) (call : Nat) (v : Json) (config : ClientConfig) :
    d.standing.accept call v config = stand (d.accept call v config) := by
  unfold accept
  rcases questionText v with r | question
  · rfl
  · dsimp only
    have hp := prepare_standing { d with outcome := { stage := .validating, question := question } }
      question config
    unfold standing at hp ⊢
    dsimp only at hp ⊢
    rw [hp]
    rcases prepare { d with outcome := { stage := .validating, question := question } } question
      config with ⟨t | ⟨m, prompt⟩, d'⟩
    · exact refuse_standing d' call t
    · dsimp only
      rcases Gateway.adapterFor config m with f | adapter
      · exact refuse_standing (d'.atStage .awaitingModel) call (.fault f)
      · dsimp only [atStage]
        rcases d'.rules.deadline.fault? with _ | f
        · rcases adapter.post (.text prompt) with f | post
          · exact refuse_standing (d'.atStage .awaitingModel) call (.fault f)
          · rfl
        · exact refuseWaiting_standing (d'.atStage .awaitingModel) call f _

theorem resume_standing (d : Desk) (call : Nat) (question : String) (m : ModelIdentity)
    (adapter : Adapter) (answer : Answer) (now : Moment) :
    d.standing.resume call question m adapter answer now =
      stand (d.resume call question m adapter answer now) :=
  resume_carrying d d.pending [] call question now m adapter answer

theorem Awaits.of_standing {e : DeskEvent} (h : d.standing.Awaits e) : d.Awaits e := by
  cases h with
  | answer call question m adapter answer now hp =>
    exact .answer call question m adapter answer now hp
  | expire call question m adapter seconds hp hs =>
    exact .expire call question m adapter seconds hp hs
  | withdraw call p hp => exact .withdraw call p hp
  | searched call question t said now hp => exact .searched call question t said now hp

theorem stand_awaited {e : DeskEvent} (h : d.Awaits e) :
    stand (d.standing.step e) = stand (d.step e) := by
  cases h with
  | answer call question m adapter answer now hp =>
    rw [step_answer hp, step_answer (d := d.standing) hp, resume_standing]
    rfl
  | expire call question m adapter seconds hp hs =>
    rw [step_expire hp hs, step_expire (d := d.standing) hp hs]
    -- both refuse on one standing, though their abandoned exchanges differ
    unfold stand
    have hone := refuse_standing (d.abandon call adapter (expiredReason seconds)) call
      (.failure (.timeout seconds))
    have hother := refuse_standing (d.standing.abandon call adapter (expiredReason seconds)) call
      (.failure (.timeout seconds))
    exact hother.symm.trans hone
  | withdraw call p hp =>
    rw [step_withdraw hp, step_withdraw (d := d.standing) hp]
    rfl
  | searched call question t said now hp =>
    rw [step_searched hp, step_searched (d := d.standing) hp]
    rcases said with trouble | ⟨⟨⟩⟩
    · dsimp only
      rw [refuse_standing]
      rfl
    · dsimp only
      rw [conclude_standing]
      rfl

/-- **An event that is no late answer does the same to all desks of one standing.** -/
theorem stand_step {e : DeskEvent} (hn : d.isLate e = false) :
    stand (d.standing.step e) = stand (d.step e) := by
  by_cases hw : d.Awaits e
  · exact stand_awaited hw
  · by_cases ha : e.isAsk = true
    · cases e with
      | answer | expire | withdraw | searched => cases ha
      | ask call v config =>
        by_cases hb : d.busy = true
        · rw [step_ask_of_pending hb, step_ask_of_pending (d := d.standing) hb]
          rfl
        · have hidle : d.busy = false := by simpa using hb
          rw [step_admitted hidle, step_admitted (d := d.standing) hidle, accept_standing]
          rfl
    · have hpasses : e.isAsk = false := by simpa using ha
      rw [step_passes hpasses hn hw, step_passes hpasses ((isLate_standing d e).trans hn)
        fun h => hw h.of_standing]
      rfl

/-! ## Runs without late answers -/

theorem Turn.heard {r : Desk × List DeskEffect} (h : Turn d call question terms r) :
    SpanQuest.heard r.2 = r.2 := by
  cases h with
  | waits _ _ _ _ hr => exact heard_of_requests hr
  | resolved _ _ _ _ _ _ _ hr => rw [heard_append, heard_of_requests hr]; rfl
  | failed _ _ _ _ _ _ _ _ hr => rw [heard_append, heard_of_requests hr]; rfl
  | withdrawn _ _ _ _ _ hr => rw [heard_append, heard_of_requests hr]; rfl

theorem Discards.heard {effects : List DeskEffect} (h : d.Discards effects) :
    SpanQuest.heard effects = [] := by
  refine List.filter_eq_nil_iff.2 fun x hx => ?_
  obtain ⟨a, -, answer, rfl⟩ := h x hx
  simp [DeskEffect.isHeard]

theorem step_heard {e : DeskEvent} (hd : d.Sound) (hn : d.isLate e = false) :
    heard (d.step e).2 = (d.step e).2 := by
  have h := step_change hd e
  generalize d.step e = r at h
  cases h with
  | turnedAway | rejected | passes => rfl
  | begins _ _ _ _ _ _ ht => exact ht.heard
  | goesOn _ _ _ _ _ _ _ _ _ _ _ ht => exact ht.heard
  | late _ _ _ _ _ hlate => rw [hn] at hlate; cases hlate

/-- **A late answer does nothing** that is heard, and leaves the standing. -/
theorem step_late {e : DeskEvent} (hd : d.Sound) (hn : d.isLate e = true) :
    (d.step e).1.standing = d.standing ∧ heard (d.step e).2 = [] := by
  have h := step_change hd e
  generalize d.step e = r at h
  cases h with
  | turnedAway | rejected | begins => cases hn
  | goesOn _ _ _ _ _ _ _ hw => rw [hw.not_late] at hn; cases hn
  | late _ _ _ _ _ _ _ hdiscards => exact ⟨rfl, hdiscards.heard⟩
  | passes _ _ hfalse => rw [hn] at hfalse; cases hfalse

/-- The events of a run, without the answers that come late. -/
def punctual (d : Desk) : List DeskEvent → List DeskEvent
  | [] => []
  | e :: es =>
    let rest := (d.step e).1.punctual es
    if d.isLate e then rest else e :: rest

theorem punctual_append (d : Desk) (es fs : List DeskEvent) :
    d.punctual (es ++ fs) = d.punctual es ++ (d.run es).1.punctual fs := by
  induction es generalizing d with
  | nil => rfl
  | cons e es ih =>
    rw [List.cons_append, punctual, punctual, run_cons]
    dsimp only
    rw [ih]
    by_cases hn : d.isLate e = true
    · rw [if_pos hn, if_pos hn]
    · rw [if_neg hn, if_neg hn, List.cons_append]

/-- Desks of one standing come to the same, one with all events and the other
    with the punctual ones. -/
theorem run_punctual {d d' : Desk} (hd : d.Sound) (hs : d'.standing = d.standing)
    (es : List DeskEvent) :
    (d'.run (d.punctual es)).1.standing = (d.run es).1.standing ∧
      (d'.run (d.punctual es)).2 = heard (d.run es).2 := by
  induction es generalizing d d' with
  | nil => exact ⟨hs, rfl⟩
  | cons e es ih =>
    have hsound := step_sound hd e
    rw [punctual, run_cons, heard_append]
    dsimp only
    by_cases hn : d.isLate e = true
    · obtain ⟨hstanding, heffects⟩ := step_late hd hn
      rw [if_pos hn, heffects, List.nil_append]
      exact ih hsound (hs.trans hstanding.symm)
    · have hfalse : d.isLate e = false := by simpa using hn
      have hfalse' : d'.isLate e = false := by
        rw [← isLate_standing, hs, isLate_standing, hfalse]
      have hstep : stand (d'.step e) = stand (d.step e) := by
        rw [← stand_step hfalse, ← stand_step hfalse', hs]
      obtain ⟨hdesk, heffects⟩ := Prod.mk.inj hstep
      obtain ⟨hlast, hrest⟩ := ih hsound hdesk
      rw [if_neg hn, run_cons, step_heard hd hfalse]
      refine ⟨hlast, ?_⟩
      dsimp only
      rw [heffects, hrest]

/-! ## Abandoned exchanges -/

theorem receive_of_tripped {token : Token} (h : token.tripped = true) (adapter : Adapter)
    (answer : Answer) : ∃ t, adapter.receive token answer = .error t := by
  cases answer with
  | unreachable | failed | broken => exact ⟨_, rfl⟩
  | response status body =>
    rw [Token.eq_trip h, Adapter.receive_response_trip]
    exact ⟨_, rfl⟩

/-- **An exchange is abandoned with its token tripped**, when its call ends. -/
theorem step_abandoned {e : DeskEvent} (hd : d.Sound) {a : Abandoned}
    (ha : a ∈ (d.step e).1.abandoned) :
    a ∈ d.abandoned ∨ (a.token.tripped = true ∧ a.call ∈ ended (d.step e).2) := by
  have h := step_change hd e
  generalize d.step e = r at h ha
  cases h with
  | turnedAway | rejected | passes => exact Or.inl ha
  | begins _ _ _ _ _ _ ht =>
    rw [ht.keeps.2] at ha
    exact Or.inl ha
  | late _ _ _ left _ _ hl => exact Or.inl (hl a ha)
  | goesOn _ call _ _ _ left _ _ _ hl hf ht =>
    rw [ht.keeps.2] at ha
    rcases hf with rfl | hidle
    · exact Or.inl ha
    · rcases hl a ha with hold | ⟨hcall, htripped⟩
      · exact Or.inl hold
      · refine Or.inr ⟨htripped, ?_⟩
        have haccounts := ht.goes.accounts
        rw [waiting_of_idle hidle, List.append_nil] at haccounts
        rw [haccounts, hcall]
        exact List.mem_singleton_self call

theorem step_discard {e : DeskEvent} (hd : d.Sound) {result : Except Trouble Json}
    (hx : .discard call result ∈ (d.step e).2) :
    ∃ a ∈ d.abandoned, ∃ answer, result = a.adapter.receive a.token answer := by
  by_cases hn : d.isLate e = true
  · have h := step_change hd e
    generalize d.step e = r at h hx
    cases h with
    | turnedAway | rejected | begins => cases hn
    | goesOn _ _ _ _ _ _ _ hw => rw [hw.not_late] at hn; cases hn
    | passes => cases hx
    | late _ _ _ _ _ _ _ hdiscards =>
      obtain ⟨a, ha, answer, heq⟩ := hdiscards _ hx
      cases heq
      exact ⟨a, ha, answer, rfl⟩
  · rw [← step_heard hd (by simpa using hn)] at hx
    have hheard := (List.mem_filter.1 hx).2
    cases hheard

/-- What a run of a desk that starts fresh leaves of its abandoned exchanges. -/
structure Settled (effects : List DeskEffect) (d : Desk) : Prop where
  tripped : ∀ a ∈ d.abandoned, a.token.tripped = true
  ended : ∀ a ∈ d.abandoned, a.call ∈ SpanQuest.ended effects
  dropped : ∀ call result, .discard call result ∈ effects → ∃ t, result = .error t

theorem step_settled {effects : List DeskEffect} (hd : d.Sound) (h : Settled effects d)
    (e : DeskEvent) : Settled (effects ++ (d.step e).2) (d.step e).1 := by
  refine ⟨?_, ?_, ?_⟩
  · intro a ha
    rcases step_abandoned hd ha with hold | ⟨htripped, -⟩
    · exact h.tripped a hold
    · exact htripped
  · intro a ha
    rw [ended_append, List.mem_append]
    rcases step_abandoned hd ha with hold | ⟨-, hended⟩
    · exact Or.inl (h.ended a hold)
    · exact Or.inr hended
  · intro call result hx
    rcases List.mem_append.1 hx with hx | hx
    · exact h.dropped call result hx
    · obtain ⟨a, ha, answer, rfl⟩ := step_discard hd hx
      exact receive_of_tripped (h.tripped a ha) a.adapter answer

theorem run_settled (hidle : d.busy = false) (hnone : d.abandoned = []) (es : List DeskEvent) :
    Settled (d.run es).2 (d.run es).1 := by
  refine run_induction (P := fun _ effects d' => Settled effects d') (sound_of_idle hidle) ?_ ?_ es
  · exact ⟨by simp [hnone], by simp [hnone], by simp⟩
  · intro es effects d' e hd hsettled
    exact step_settled hd hsettled e

/-- An abandoned exchange belongs to a call that has ended, and so, if no number
    is used twice, every answer to it comes late. -/
theorem late_of_abandoned (hidle : d.busy = false) (hnone : d.abandoned = [])
    {es : List DeskEvent} (hnodup : (asks es).Nodup) {a : Abandoned}
    (ha : a ∈ (d.run es).1.abandoned) (answer : Answer) (now : Moment) :
    (d.run es).1.isLate (.answer a.call answer now) = true := by
  have hended := (run_settled hidle hnone es).ended a ha
  have hapart := (List.nodup_append.1 ((run_accounts hidle es).nodup_iff.1 hnodup)).2.2
  rcases hp : (d.run es).1.pending with _ | ⟨call, ⟨question, m, adapter⟩ | ⟨question, t⟩⟩
  · simp only [isLate, hp]
  · have hwaits : call ∈ (d.run es).1.waiting := by
      rw [waiting_of_pending hp]
      exact List.mem_singleton_self call
    have hne : call ≠ a.call := (hapart a.call hended call hwaits).symm
    simp [isLate, hp, hne]
  · simp only [isLate, hp]

/-! ## Deadlines -/

/-- A call has timed out: its exchange is abandoned with its token tripped, and
    then the call fails with the deadline, which its caller and the outcome tell. -/
structure TimesOut (d : Desk) (call : Nat) (question : String) (adapter : Adapter)
    (seconds : Double) (after : Desk × List DeskEffect) : Prop where
  order : after = (d.abandon call adapter (expiredReason seconds)).refuse call
    (.failure (.timeout seconds))
  told : after.2 = [.finish call (.error (.failure (.timeout seconds)))]
  idle : after.1.busy = false
  outcome : after.1.outcome = .failed question none (.timeout seconds)
  shelf : after.1.shelf = d.shelf
  abandoned : after.1.abandoned =
    ⟨call, adapter, Token.fresh.trip (expiredReason seconds)⟩ :: d.abandoned

theorem step_timesOut {m : ModelIdentity} {adapter : Adapter} {seconds : Double} (hd : d.Sound)
    (hp : d.pending = some (call, .model question m adapter))
    (hs : d.rules.deadline = .after seconds) :
    TimesOut d call question adapter seconds (d.step (.expire call)) := by
  have horder := step_expire hp hs
  have ho : (d.abandon call adapter (expiredReason seconds)).outcome =
    { stage := .awaitingModel, question := question } := hd call _ hp
  refine ⟨horder, ?_, ?_, ?_, ?_, ?_⟩
  all_goals rw [horder, refuse_of_within rfl]
  · rfl
  · show Outcome.fail _ _ = _
    rw [ho]
    rfl
  · rfl
  · rfl

/-! ## Undisturbed runs -/

/-- Late answers do not disturb the run of the events `es`. -/
structure Undisturbed (d : Desk) (es : List DeskEvent) : Prop where
  /-- At every moment of the run the desk is, but for its abandoned exchanges, as
      it is at a moment of the run without late answers. -/
  moments : ∀ before after, es = before ++ after → d.punctual before <+: d.punctual es ∧
    (d.run (d.punctual before)).1.standing = (d.run before).1.standing
  /-- Others hear what they would hear without them. -/
  effects : (d.run (d.punctual es)).2 = heard (d.run es).2
  /-- It does not matter when late answers come, nor what they are. -/
  timing : ∀ fs, d.punctual fs = d.punctual es →
    (d.run fs).1.standing = (d.run es).1.standing ∧ heard (d.run fs).2 = heard (d.run es).2
  /-- A call that still waits for the model at its deadline times out. -/
  expires : ∀ call question m adapter seconds,
    (d.run es).1.pending = some (call, .model question m adapter) →
    d.rules.deadline = .after seconds →
    TimesOut (d.run es).1 call question adapter seconds ((d.run es).1.step (.expire call))
  /-- An answer to an abandoned exchange comes late. -/
  late : (asks es).Nodup → ∀ a ∈ (d.run es).1.abandoned, ∀ answer now,
    (d.run es).1.isLate (.answer a.call answer now) = true
  tripped : ∀ a ∈ (d.run es).1.abandoned, a.token.tripped = true
  /-- A response to an abandoned exchange withdraws it, unless it comes from an
      address that no response can be read from. -/
  withdrawn : ∀ a ∈ (d.run es).1.abandoned, ∀ status body,
    a.adapter.receive a.token (.response status body) =
      .error (match a.adapter.addressFault? with
        | some f => .fault f
        | none => .withdrawn a.token.reason.display)
  /-- What is discarded is never a text. -/
  dropped : ∀ call result, .discard call result ∈ (d.run es).2 → ∃ t, result = .error t

/-- **Late answers disturb no run** of a desk that nobody has asked before. -/
theorem run_undisturbed (rules : DeskRules) (prompts : Prompt.Registry) (shelf : Shelf)
    (es : List DeskEvent) : Undisturbed (fresh rules prompts shelf) es := by
  have hsound : (fresh rules prompts shelf).Sound := sound_of_idle rfl
  have hrun := run_punctual hsound rfl es
  have hsettled := run_settled (d := fresh rules prompts shelf) rfl rfl es
  refine ⟨?_, hrun.2, ?_, ?_, ?_, hsettled.tripped, ?_, hsettled.dropped⟩
  · rintro before after rfl
    refine ⟨?_, (run_punctual hsound rfl before).1⟩
    rw [punctual_append]
    exact List.prefix_append _ _
  · intro fs hfs
    have hother := run_punctual hsound rfl fs
    rw [hfs] at hother
    exact ⟨hother.1.symm.trans hrun.1, hother.2.symm.trans hrun.2⟩
  · intro call question m adapter seconds hp hs
    refine step_timesOut (run_sound hsound es) hp ?_
    rw [run_rules hsound es]
    exact hs
  · intro hnodup a ha answer now
    exact late_of_abandoned rfl rfl hnodup ha answer now
  · intro a ha status body
    rw [Token.eq_trip (hsettled.tripped a ha)]
    exact Adapter.receive_response_trip a.adapter _ _ status body

/-- The answer to a call that has timed out comes while the next call waits. -/
example :
    (sample.punctual [.ask 0 (.text "slow requests") sampleConfig, .expire 0,
      .ask 1 (.text "errors") sampleConfig, .answer 0 (.unreachable "") ⟨0⟩,
      .expire 1]).length = 4 := by
  decide +kernel

end Desk

end SpanQuest
