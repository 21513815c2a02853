/-
  Steps and runs of a desk.

  `Change` says once what an event can do to a desk: a second call is turned
  away, a question that is no text is rejected, a call begins, the call that
  waits goes on, an answer comes late, or the event passes without a trace.
  Whatever holds of all runs is derived from it.

  * `step_change`: every step is such a change, on a desk whose outcome is that
    of the call that waits (`Sound`), and the desk stays one (`step_sound`);
  * `endings`: the ends of calls among effects;
  * `run_induction`: what a step keeps is kept by a run, with the events and
    the effects so far.
-/
import Mathlib.Data.List.Induction
import SpanQuest.Proofs.Desk.Event
import SpanQuest.Proofs.Desk.Turn

namespace SpanQuest

open Backend

/-- The ends of calls among effects. -/
def endings (effects : List DeskEffect) : List (Nat × Except Trouble Resolution) :=
  effects.filterMap fun
    | .finish call result => some (call, result)
    | _ => none

theorem endings_append (xs ys : List DeskEffect) :
    endings (xs ++ ys) = endings xs ++ endings ys :=
  List.filterMap_append

@[simp] theorem endings_finish (call : Nat) (result : Except Trouble Resolution) :
    endings [.finish call result] = [(call, result)] := rfl

theorem endings_of_requests {effects : List DeskEffect} (h : ∀ e ∈ effects, e.isRequest = true) :
    endings effects = [] := by
  refine List.filterMap_eq_nil_iff.2 fun e he => ?_
  have := h e he
  cases e <;> simp_all [DeskEffect.isRequest]

theorem endings_requests_finish {requests : List DeskEffect}
    (h : ∀ e ∈ requests, e.isRequest = true) (call : Nat) (result : Except Trouble Resolution) :
    endings (requests ++ [.finish call result]) = [(call, result)] := by
  rw [endings_append, endings_of_requests h, List.nil_append, endings_finish]

namespace Desk

variable {d : Desk} {call : Nat} {question : String}

/-- A desk that nobody has asked yet. -/
def fresh (rules : DeskRules) (prompts : Prompt.Registry) (shelf : Shelf) : Desk where
  rules := rules
  prompts := prompts
  shelf := shelf

theorem opened_eq (deadline : Deadline) (lookback limit : Json) (history : Option History)
    (searches : Bool) (prompts : Prompt.Registry) (shelf : Shelf) :
    opened deadline lookback limit history searches prompts shelf =
      (Lookback.ofJson lookback).map fun l =>
        fresh ⟨deadline, l, limit, history, searches⟩ prompts shelf := rfl

/-- The outcome is that of the call that waits. -/
def Sound (d : Desk) : Prop :=
  ∀ call p, d.pending = some (call, p) → d.outcome = p.outcome

theorem sound_of_idle (h : d.busy = false) : d.Sound := by
  intro call p hp
  simp [busy, hp] at h

theorem sound_of_waiting (d : Desk) (p : Pending) (prompts : Prompt.Registry) (call : Nat) :
    ({ d with outcome := p.outcome, prompts := prompts, pending := some (call, p) } :
      Desk).Sound := by
  rintro c q hq
  cases hq
  rfl

/-- A turn after which no call can wait leaves the desk free. -/
theorem Turn.idle {terms : Terms} {r : Desk × List DeskEffect}
    (hw : ∀ p requests, ¬ terms.waits p requests) (h : Turn d call question terms r) :
    r.1.busy = false := by
  cases h with
  | waits p prompts requests hp hr => exact absurd hp (hw p requests)
  | resolved | failed | withdrawn => rfl

theorem Turn.keeps {terms : Terms} {r : Desk × List DeskEffect}
    (h : Turn d call question terms r) :
    r.1.rules = d.rules ∧ r.1.abandoned = d.abandoned := by
  cases h with
  | waits | resolved | failed | withdrawn => exact ⟨rfl, rfl⟩

/-! ## The call that waits -/

/-- What is abandoned after a step of a call: what was before, and perhaps the
    exchange of the call, with its token tripped. -/
def LeavesBehind (d : Desk) (call : Nat) (left : List Abandoned) : Prop :=
  ∀ a ∈ left, a ∈ d.abandoned ∨ (a.call = call ∧ a.token.tripped = true)

theorem abandon_leavesBehind (d : Desk) (call : Nat) (adapter : Adapter) (reason : Json) :
    d.LeavesBehind call (d.abandon call adapter reason).abandoned := by
  intro a ha
  rcases List.mem_cons.1 ha with rfl | ha
  · exact Or.inr ⟨rfl, rfl⟩
  · exact Or.inl ha

theorem abandonedBy_leavesBehind (d : Desk) (call : Nat) (p : Pending) :
    d.LeavesBehind call (d.abandonedBy call p) := by
  cases p with
  | model question m adapter => exact d.abandon_leavesBehind call adapter withdrawnReason
  | search => exact fun _ => Or.inl

theorem expire_turn {m : ModelIdentity} {adapter : Adapter} {seconds : Double}
    (hd : d.Sound) (hp : d.pending = some (call, .model question m adapter))
    (hs : d.rules.deadline = .after seconds) :
    ∃ left, d.LeavesBehind call left ∧
      Turn { d with abandoned := left } call question (.expiring d) (d.step (.expire call)) := by
  rw [step_expire hp hs]
  refine ⟨_, d.abandon_leavesBehind call adapter (expiredReason seconds), ?_⟩
  have ho : (d.abandon call adapter (expiredReason seconds)).outcome =
    { stage := .awaitingModel, question := question } := hd call _ hp
  rw [refuse_of_within rfl, ho]
  exact .failed (.timeout seconds) none d.prompts d.shelf [] ⟨⟨seconds, hs, rfl⟩, rfl⟩ (by simp)
    (fun _ _ => rfl) (by simp)

theorem withdraw_turn {p : Pending} (hd : d.Sound) (hp : d.pending = some (call, p))
    (question : String) :
    ∃ left, d.LeavesBehind call left ∧
      Turn { d with abandoned := left } call question .withdrawing (d.step (.withdraw call)) := by
  rw [step_withdraw hp]
  refine ⟨_, d.abandonedBy_leavesBehind call p, ?_⟩
  rw [hd call p hp]
  exact .withdrawn p "" d.prompts [] trivial (by simp)

theorem searched_turn {t : Resolution} (hd : d.Sound)
    (hp : d.pending = some (call, .search question t)) (said : Except Trouble Unit)
    (now : Moment) :
    Turn d call question (.searching t said now) (d.step (.searched call said now)) := by
  have ho := hd call _ hp
  rw [step_searched hp]
  rcases said with trouble | ⟨⟨⟩⟩
  · dsimp only
    rcases trouble.within_cases searchFailed with ⟨f, hf⟩ | ⟨reason, hr⟩
    · rw [hf, refuse_of_within rfl, ho]
      exact .failed f (some t.query) d.prompts d.shelf [] rfl (by rintro q ⟨⟩; rfl)
        (fun _ _ => rfl) (by simp)
    · have hw : trouble = .withdrawn reason := by
        cases trouble <;> simp_all [Trouble.within]
      rw [hr]
      show Turn d call question _ ({ d with pending := none }, _)
      rw [ho]
      exact .withdrawn (.search question t) reason d.prompts [] ⟨reason, by rw [hw]⟩ (by simp)
  · exact conclude_turn d call ho now ⟨rfl, rfl, rfl⟩ rfl fun _ => rfl

/-! ## All events -/

/-- The effects are what abandoned exchanges came to. -/
def Discards (d : Desk) (effects : List DeskEffect) : Prop :=
  ∀ x ∈ effects, ∃ a ∈ d.abandoned, ∃ answer,
    x = .discard a.call (a.adapter.receive a.token answer)

theorem Discards.endings {effects : List DeskEffect} (h : d.Discards effects) :
    SpanQuest.endings effects = [] := by
  refine List.filterMap_eq_nil_iff.2 fun x hx => ?_
  obtain ⟨a, -, answer, rfl⟩ := h x hx
  rfl

/-- **What an event does to a desk.** -/
inductive Change (d : Desk) : DeskEvent → Desk × List DeskEffect → Prop where
  | turnedAway (call : Nat) (v : Json) (config : ClientConfig) (hb : d.busy = true) :
      Change d (.ask call v config) (d, [.finish call (.error (.failure .inProgress))])
  | rejected (call : Nat) (v : Json) (config : ClientConfig) (r : Rejection)
      (hb : d.busy = false) :
      Change d (.ask call v config) (d, [.finish call (.error (.rejected r))])
  | begins (call : Nat) (v : Json) (config : ClientConfig) (question : String)
      (r : Desk × List DeskEffect) (hb : d.busy = false)
      (ht : Turn d call question (.asking d call question config) r) :
      Change d (.ask call v config) r
  | goesOn (e : DeskEvent) (call : Nat) (p : Pending) (question : String) (terms : Terms)
      (left : List Abandoned) (r : Desk × List DeskEffect) (hw : d.Awaits e)
      (hp : d.pending = some (call, p)) (hl : d.LeavesBehind call left)
      (hf : left = d.abandoned ∨ r.1.busy = false)
      (ht : Turn { d with abandoned := left } call question terms r) :
      Change d e r
  | late (call : Nat) (answer : Answer) (now : Moment) (left : List Abandoned)
      (effects : List DeskEffect) (hn : d.isLate (.answer call answer now) = true)
      (hl : ∀ a ∈ left, a ∈ d.abandoned) (hd : d.Discards effects) :
      Change d (.answer call answer now) ({ d with abandoned := left }, effects)
  | passes (e : DeskEvent) (ha : e.isAsk = false) (hn : d.isLate e = false) : Change d e (d, [])

theorem ask_change (call : Nat) (v : Json) (config : ClientConfig) :
    Change d (.ask call v config) (d.step (.ask call v config)) := by
  by_cases hb : d.busy = true
  · rw [step_ask_of_pending hb]
    exact .turnedAway call v config hb
  · have hidle : d.busy = false := by simpa using hb
    rw [step_admitted hidle]
    rcases hv : questionText v with r | question
    · have hrejected : d.accept call v config = (d, [.finish call (.error (.rejected r))]) := by
        unfold accept
        rw [hv]
      rw [hrejected]
      exact .rejected call v config r hidle
    · exact .begins call v config question _ hidle (accept_turn hv d call config)

theorem awaited_change {e : DeskEvent} (hd : d.Sound) (h : d.Awaits e) :
    Change d e (d.step e) := by
  have hw := h
  cases h with
  | answer call question m adapter answer now hp =>
    have ht := resume_turn d call (hd call _ hp) answer now
    rw [step_answer hp]
    exact .goesOn _ call _ question _ d.abandoned _ hw hp (fun _ => Or.inl) (Or.inl rfl) ht
  | expire call question m adapter seconds hp hs =>
    obtain ⟨left, hl, ht⟩ := expire_turn hd hp hs
    have hidle := ht.idle fun _ _ => id
    exact .goesOn _ call _ question _ left _ hw hp hl (Or.inr hidle) ht
  | withdraw call p hp =>
    obtain ⟨left, hl, ht⟩ := withdraw_turn hd hp ""
    have hidle := ht.idle fun _ _ => id
    exact .goesOn _ call p "" _ left _ hw hp hl (Or.inr hidle) ht
  | searched call question t said now hp =>
    have ht := searched_turn hd hp said now
    exact .goesOn _ call _ question _ d.abandoned _ hw hp (fun _ => Or.inl) (Or.inl rfl) ht

theorem late_change {answer : Answer} {now : Moment}
    (hn : d.isLate (.answer call answer now) = true) :
    Change d (.answer call answer now) (d.step (.answer call answer now)) := by
  rw [step_answer_late hn]
  unfold answerLate
  split
  · exact .late call answer now d.abandoned [] hn (fun _ => id) (by simp [Discards])
  · rename_i a hf
    have hcall : a.call = call := by simpa using List.find?_some hf
    refine .late call answer now _ _ hn (fun b hb => (List.mem_filter.1 hb).1) fun x hx => ?_
    refine ⟨a, List.mem_of_find?_eq_some hf, answer, ?_⟩
    rw [List.mem_singleton.1 hx, hcall]

theorem step_change (hd : d.Sound) (e : DeskEvent) : Change d e (d.step e) := by
  by_cases hw : d.Awaits e
  · exact awaited_change hd hw
  · cases e with
    | ask call v config => exact ask_change call v config
    | answer call answer now =>
      by_cases hn : d.isLate (.answer call answer now) = true
      · exact late_change hn
      · have hfalse : d.isLate (.answer call answer now) = false := by simpa using hn
        rw [step_passes rfl hfalse hw]
        exact .passes _ rfl hfalse
    | expire | withdraw | searched =>
      rw [step_passes rfl rfl hw]
      exact .passes _ rfl rfl

theorem Turn.sound {terms : Terms} {r : Desk × List DeskEffect}
    (h : Turn d call question terms r) : r.1.Sound := by
  cases h with
  | waits p prompts requests hp hr => exact sound_of_waiting d p prompts call
  | resolved | failed | withdrawn => exact sound_of_idle rfl

theorem step_sound (hd : d.Sound) (e : DeskEvent) : (d.step e).1.Sound := by
  have h := step_change hd e
  generalize d.step e = r at h
  cases h with
  | turnedAway | rejected => exact hd
  | begins _ _ _ _ _ _ ht => exact ht.sound
  | goesOn _ _ _ _ _ _ _ _ _ _ _ ht => exact ht.sound
  | late | passes => exact hd

theorem step_rules (hd : d.Sound) (e : DeskEvent) : (d.step e).1.rules = d.rules := by
  have h := step_change hd e
  generalize d.step e = r at h
  cases h with
  | turnedAway | rejected | late | passes => rfl
  | begins _ _ _ _ _ _ ht => exact ht.keeps.1
  | goesOn _ _ _ _ _ _ _ _ _ _ _ ht => exact ht.keeps.1

/-! ## Runs -/

theorem run_cons (d : Desk) (e : DeskEvent) (es : List DeskEvent) :
    d.run (e :: es) =
      (((d.step e).1.run es).1, (d.step e).2 ++ ((d.step e).1.run es).2) := rfl

theorem run_append (d : Desk) (es fs : List DeskEvent) :
    d.run (es ++ fs) = (((d.run es).1.run fs).1, (d.run es).2 ++ ((d.run es).1.run fs).2) := by
  induction es generalizing d with
  | nil => rfl
  | cons e es ih => simp only [List.cons_append, run_cons, ih, List.append_assoc]

theorem run_singleton (d : Desk) (e : DeskEvent) : d.run [e] = d.step e := by
  rw [run_cons, run, List.append_nil]

theorem run_sound (hd : d.Sound) (es : List DeskEvent) : (d.run es).1.Sound := by
  induction es generalizing d with
  | nil => exact hd
  | cons e es ih => exact ih (step_sound hd e)

/-- **What holds at the start and is kept by every step holds after every run**,
    of the events, the effects and the desk so far. -/
theorem run_induction (hd : d.Sound) {P : List DeskEvent → List DeskEffect → Desk → Prop}
    (start : P [] [] d)
    (next : ∀ es effects d' e, d'.Sound → P es effects d' →
      P (es ++ [e]) (effects ++ (d'.step e).2) (d'.step e).1) (es : List DeskEvent) :
    P es (d.run es).2 (d.run es).1 := by
  induction es using List.reverseRecOn with
  | nil => exact start
  | append_singleton es e ih =>
    rw [run_append, run_singleton]
    exact next es _ _ e (run_sound hd es) ih

theorem run_rules (hd : d.Sound) (es : List DeskEvent) : (d.run es).1.rules = d.rules := by
  refine run_induction (P := fun _ _ d' => d'.rules = d.rules) hd rfl ?_ es
  intro es effects d' e hd' hrules
  rw [step_rules hd' e, hrules]

/-! ## A desk to look at -/

/-- A desk with a history in memory and a search service, which asks the model
    the question and nothing else. -/
def sample : Desk where
  rules := ⟨.after (.ofInt 10), ⟨3600, "1h"⟩, .int 20, some .usual, true⟩
  prompts :=
    { source := .missing, loaded := true,
      entries := [(Prompt.parseQuestion, ⟨.text "Parse: {{ question }}", .int 1⟩)] }
  shelf := ⟨.memory [(History.defaultKey, .text "[]")], .empty⟩

/-- A configuration of the local backend. -/
def sampleConfig : ClientConfig := ⟨.known .ollama, none, none, none⟩

end Desk

end SpanQuest
