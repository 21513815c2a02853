/-
  One call at a time.

  Whatever the order of the events, no two calls are admitted at once.  A call
  that is made while another waits is told so and leaves no trace, and a call
  that waits gives the desk free when it ends, however it ends.

  * `step_accounts`: a step neither loses a call nor invents one;
  * `run_of_turnedAway`: a run with a call that is turned away is the run
    without it, but for the end of that call;
  * `step_goes`: the call that waits goes on waiting, or it ends and the desk
    is free;
  * `run_exclusive`: all of it, for every run of a desk that starts free.
-/
import SpanQuest.Proofs.Desk.Step

namespace SpanQuest

open Backend

/-- The calls that are made among events. -/
def asks (es : List DeskEvent) : List Nat :=
  es.filterMap fun
    | .ask call .. => some call
    | _ => none

theorem asks_append (es fs : List DeskEvent) : asks (es ++ fs) = asks es ++ asks fs :=
  List.filterMap_append

theorem asks_of_not_ask {e : DeskEvent} (h : e.isAsk = false) : asks [e] = [] := by
  cases e with
  | ask => cases h
  | answer | expire | withdraw | searched => rfl

/-- The calls that have ended among effects. -/
def ended (effects : List DeskEffect) : List Nat :=
  (endings effects).map Prod.fst

theorem ended_append (xs ys : List DeskEffect) : ended (xs ++ ys) = ended xs ++ ended ys := by
  unfold ended
  rw [endings_append, List.map_append]

namespace Desk

variable {d : Desk} {call : Nat} {question : String} {terms : Terms}

/-- The call that waits, if any. -/
def waiting (d : Desk) : List Nat :=
  (d.pending.map Prod.fst).toList

theorem waiting_of_idle (h : d.busy = false) : d.waiting = [] := by
  unfold waiting
  have hp : d.pending = none := by simpa [busy] using h
  rw [hp]
  rfl

theorem waiting_of_pending {p : Pending} (h : d.pending = some (call, p)) : d.waiting = [call] := by
  unfold waiting
  rw [h]
  rfl

theorem waiting_length (d : Desk) : d.waiting.length ≤ 1 := by
  unfold waiting
  cases d.pending <;> simp

/-! ## What becomes of a call -/

/-- A call waits, or it has just ended and the desk is free. -/
def Goes (call : Nat) (r : Desk × List DeskEffect) : Prop :=
  (endings r.2 = [] ∧ ∃ p, r.1.pending = some (call, p)) ∨
    ∃ result, endings r.2 = [(call, result)] ∧ r.1.busy = false

theorem Turn.goes {r : Desk × List DeskEffect} (h : Turn d call question terms r) :
    Goes call r := by
  cases h with
  | waits p prompts requests hp hr => exact Or.inl ⟨endings_of_requests hr, p, rfl⟩
  | resolved t now prompts shelf requests ht hk hr =>
    exact Or.inr ⟨.ok t, endings_requests_finish hr call _, rfl⟩
  | failed f query prompts shelf requests hf hq hs hr =>
    exact Or.inr ⟨.error (.failure f), endings_requests_finish hr call _, rfl⟩
  | withdrawn p reason prompts requests hw hr =>
    exact Or.inr ⟨.error (.withdrawn reason), endings_requests_finish hr call _, rfl⟩

theorem Goes.accounts {r : Desk × List DeskEffect} (h : Goes call r) :
    ended r.2 ++ r.1.waiting = [call] := by
  unfold ended
  rcases h with ⟨he, p, hp⟩ | ⟨result, he, hidle⟩
  · rw [he, waiting_of_pending hp]
    rfl
  · rw [he, waiting_of_idle hidle]
    rfl

theorem Turn.not_busy {config : ClientConfig} {r : Desk × List DeskEffect}
    (h : Turn d call question (.asking d call question config) r) (m : String) :
    (call, .error (.failure (.busy m))) ∉ endings r.2 := by
  intro hmem
  cases h with
  | waits p prompts requests hp hr =>
    rw [endings_of_requests hr] at hmem
    cases hmem
  | resolved _ _ _ _ _ ht => exact ht
  | withdrawn _ _ _ _ hw => exact hw
  | failed f query prompts shelf requests hf hq hs hr =>
    rw [endings_requests_finish hr] at hmem
    have hbusy : f = .busy m := by simpa using (List.mem_singleton.1 hmem).symm
    exact hf.1 (f.httpStatus_eq_409_iff.2 ⟨m, hbusy⟩)

/-- **A desk that is free admits the next call**: it goes on, and if it fails,
    then not because the desk is busy. -/
theorem step_admits (hidle : d.busy = false) (call : Nat) (v : Json) (config : ClientConfig) :
    Goes call (d.step (.ask call v config)) ∧
      ∀ m, (call, .error (.failure (.busy m))) ∉ endings (d.step (.ask call v config)).2 := by
  have h := step_change (sound_of_idle hidle) (.ask call v config)
  generalize d.step (.ask call v config) = r at h
  cases h with
  | turnedAway _ _ _ hb => rw [hidle] at hb; cases hb
  | rejected _ _ _ rejection =>
    exact ⟨Or.inr ⟨_, endings_finish call _, hidle⟩, by simp⟩
  | begins _ _ _ question _ _ ht => exact ⟨ht.goes, ht.not_busy⟩
  | goesOn _ _ _ _ _ _ _ hw => cases hw
  | passes _ he => cases he

/-- **The call that waits goes on**: an event other than a new call lets it
    wait, or ends it and gives the desk free. -/
theorem step_goes {p : Pending} {e : DeskEvent} (hd : d.Sound) (hp : d.pending = some (call, p))
    (he : e.isAsk = false) : Goes call (d.step e) := by
  have h := step_change hd e
  generalize d.step e = r at h
  cases h with
  | turnedAway | rejected | begins => cases he
  | goesOn _ waiting q _ _ _ _ _ hq _ _ ht =>
    rw [hp] at hq
    obtain ⟨rfl, rfl⟩ : call = waiting ∧ p = q := by simpa using hq
    exact ht.goes
  | late _ _ _ left effects _ _ hdiscards => exact Or.inl ⟨hdiscards.endings, p, hp⟩
  | passes => exact Or.inl ⟨rfl, p, hp⟩

/-! ## Accounts -/

/-- **The accounts of a step**: every call that waited or was made has ended or waits. -/
theorem step_accounts (hd : d.Sound) (e : DeskEvent) :
    (d.waiting ++ asks [e]).Perm (ended (d.step e).2 ++ (d.step e).1.waiting) := by
  have h := step_change hd e
  generalize d.step e = r at h
  cases h with
  | turnedAway call | rejected call => exact List.perm_append_comm
  | begins call v config question _ hidle ht =>
    rw [ht.goes.accounts, waiting_of_idle hidle]
    exact List.Perm.refl [call]
  | goesOn _ call p question terms left _ hw hp _ _ ht =>
    rw [ht.goes.accounts, waiting_of_pending hp, asks_of_not_ask hw.not_ask]
    exact List.Perm.refl [call]
  | late call answer now left effects _ _ hdiscards =>
    unfold ended
    rw [hdiscards.endings, asks_of_not_ask rfl, List.append_nil]
    exact List.Perm.refl d.waiting
  | passes _ he =>
    rw [asks_of_not_ask he, List.append_nil]
    exact List.Perm.refl d.waiting

theorem run_accounts (hidle : d.busy = false) (es : List DeskEvent) :
    (asks es).Perm (ended (d.run es).2 ++ (d.run es).1.waiting) := by
  refine run_induction (P := fun es effects d' =>
    (asks es).Perm (ended effects ++ d'.waiting)) (sound_of_idle hidle) ?_ ?_ es
  · rw [waiting_of_idle hidle]
    exact List.Perm.refl []
  · intro es effects d' e hd hperm
    rw [asks_append, ended_append, List.append_assoc]
    calc asks es ++ asks [e]
      _ |>.Perm ((ended effects ++ d'.waiting) ++ asks [e]) := hperm.append_right _
      _ = ended effects ++ (d'.waiting ++ asks [e]) := List.append_assoc ..
      _ |>.Perm (ended effects ++ (ended (d'.step e).2 ++ (d'.step e).1.waiting)) :=
        (step_accounts hd e).append_left _

/-! ## Calls that are turned away -/

/-- **A call that is turned away leaves no trace**: the run goes on as without
    it, and its effects are the same but for the end of that call. -/
theorem run_of_turnedAway {es : List DeskEvent} (hb : (d.run es).1.busy = true) (call : Nat)
    (v : Json) (config : ClientConfig) (fs : List DeskEvent) :
    d.run (es ++ .ask call v config :: fs) = ((d.run (es ++ fs)).1,
      (d.run es).2 ++ .finish call (.error (.failure .inProgress)) :: ((d.run es).1.run fs).2) := by
  rw [run_append, run_append, run, step_ask_of_pending hb]
  rfl

/-! ## Exclusion -/

/-- One call is served at a time, after the events `es`. -/
structure Exclusive (d : Desk) (es : List DeskEvent) : Prop where
  /-- Every call that was made has ended once, but for the one that waits. -/
  accounts : (asks es).Perm (ended (d.run es).2 ++ (d.run es).1.waiting)
  single : (asks es).length ≤ (ended (d.run es).2).length + 1
  /-- A call that is made while another waits is told so, and whatever follows
      is as without it. -/
  invisible : (d.run es).1.busy = true → ∀ call v config fs,
    (d.run (es ++ .ask call v config :: fs)).1 = (d.run (es ++ fs)).1 ∧
    (d.run (es ++ fs)).2 = (d.run es).2 ++ ((d.run es).1.run fs).2 ∧
    (d.run (es ++ .ask call v config :: fs)).2 = (d.run es).2 ++
      .finish call (.error (.failure .inProgress)) :: ((d.run es).1.run fs).2
  /-- However the call that waits ends, the desk is free then. -/
  frees : ∀ call p e, (d.run es).1.pending = some (call, p) → e.isAsk = false →
    Goes call ((d.run es).1.step e)
  /-- A desk that is free admits the next call. -/
  admits : (d.run es).1.busy = false → ∀ call v config,
    Goes call ((d.run es).1.step (.ask call v config)) ∧
    ∀ m, (call, .error (.failure (.busy m))) ∉ endings ((d.run es).1.step (.ask call v config)).2

/-- **One call is served at a time**, whatever happens to a desk that starts free. -/
theorem run_exclusive (hidle : d.busy = false) (es : List DeskEvent) : Exclusive d es := by
  have hsound : (d.run es).1.Sound := run_sound (sound_of_idle hidle) es
  have haccounts := run_accounts hidle es
  refine ⟨haccounts, ?_, ?_, ?_, ?_⟩
  · have hlength := haccounts.length_eq
    have hone := waiting_length (d.run es).1
    rw [List.length_append] at hlength
    omega
  · intro hb call v config fs
    rw [run_of_turnedAway hb]
    refine ⟨rfl, ?_, rfl⟩
    rw [run_append]
  · intro call p e hp he
    exact step_goes hsound hp he
  · intro hfree call v config
    exact step_admits hfree call v config

/-- A second caller is turned away while the first waits for the model. -/
theorem run_exclusive_sample : sample.busy = false ∧
    Exclusive sample [.ask 0 (.text "slow requests") sampleConfig,
      .ask 1 (.text "errors") sampleConfig, .expire 0] :=
  ⟨rfl, run_exclusive rfl _⟩

end Desk

end SpanQuest
