/-
  Turns: what one step of a call comes to.

  A call goes forward in at most three steps: the caller asks, the backend
  answers (or the deadline passes), and the search service is done.  Each of
  them ends the call or lets it wait for the next, and `Turn` lists the ways in
  which it may do so: what becomes of the desk, and what its effects are.

  * `Turn` is indexed by `Terms`, which say for the step at hand what the call
    may wait for, and how it may end;
  * `accept_turn`, `resume_turn`, `conclude_turn` and `refuse_turn`: each
    operation of a call is a turn on its own terms;
  * a turn depends on the rules and the shelf of a desk only, and so a step
    that first sets the outcome takes the same turn (`Turn.of_outcome`).
-/
import SpanQuest.Proofs.Storage.Append
import SpanQuest.Proofs.Trouble
import SpanQuest.Request.Desk

namespace SpanQuest

open Backend

/-! ## Outcomes of a call -/

/-- The outcome while a call waits. -/
def Pending.outcome : Pending → Outcome
  | .model question _ _ => { stage := .awaitingModel, question := question }
  | .search question t => { stage := .compiling, question := question, query := some t.query }

/-- The outcome of a call that ended well. -/
def Outcome.resolved (question : String) (t : Resolution) : Outcome :=
  { stage := .done, question := question, query := some t.query, filters := some t.filters }

/-- The outcome of a call that failed, and the query that it had come to, if any. -/
def Outcome.failed (question : String) (query : Option Query) (f : Failure) : Outcome :=
  ({ question := question, query := query } : Outcome).fail f

/-! ## Terms -/

/-- What a turn may come to. -/
structure Terms where
  /-- What the call may wait for next, and what it asks of others. -/
  waits : Pending → List DeskEffect → Prop
  /-- The resolutions that it may end with, and when. -/
  resolves : Resolution → Moment → Prop
  /-- The failures that it may end with, and what it asks of others all the same. -/
  fails : Failure → List DeskEffect → Prop
  /-- The queries that its outcome may show if it fails. -/
  shows : Query → Prop
  /-- It may end because the caller no longer waits. -/
  withdraws : Prop

/-- What is posted for a question: the prompt, to the model of the configuration. -/
structure PostedFor (prompts : Prompt.Registry) (question : String) (config : ClientConfig)
    (m : ModelIdentity) (adapter : Adapter) (post : Post) : Prop where
  ink : Text.allBlank question = false
  valid : Gateway.validate config = .ok m
  adapts : Gateway.adapterFor config m = .ok adapter
  posts : ∃ prompt, (prompts.questionPrompt question).1 = .ok prompt ∧
    adapter.post (.text prompt) = .ok post

/-- A query was read out of an answer, by way of a completion. -/
structure ReadFrom (adapter : Adapter) (m : ModelIdentity) (answer : Answer) (question : String)
    (completion : Completion) (query : Query) : Prop where
  completes : Gateway.completionFrom adapter m answer = .ok completion
  reads : Reply.queryOf completion.text question = .ok query

/-- A resolution stands for an answer: its query was read out of it, and its
    filters are those of the query. -/
structure Answers (t : Resolution) (adapter : Adapter) (m : ModelIdentity) (answer : Answer)
    (question : String) : Prop where
  reads : ReadFrom adapter m answer question t.completion t.query
  filters : t.filters = Filters.ofQuery t.query

namespace Terms

/-- The terms of a caller who asks: the call waits for the model of the
    configuration, or it fails, but not because the desk is busy. -/
def asking (d : Desk) (call : Nat) (question : String) (config : ClientConfig) : Terms where
  waits p requests := d.rules.deadline.fault? = none ∧ ∃ m adapter post,
    p = .model question m adapter ∧ PostedFor d.prompts question config m adapter post ∧
      requests = [.send call post]
  resolves _ _ := False
  fails f requests := f.httpStatus ≠ 409 ∧ (requests = [] ∨ ∃ m adapter post,
    PostedFor d.prompts question config m adapter post ∧ requests = [.send call post])
  shows _ := False
  withdraws := False

/-- The terms of an answer: a query that is shown was read out of it, and the
    call waits for the search service exactly if there is one. -/
def answering (d : Desk) (call : Nat) (question : String) (m : ModelIdentity)
    (adapter : Adapter) (answer : Answer) (now : Moment) : Terms where
  waits p requests := ∃ t, p = .search question t ∧ d.rules.searches = true ∧
    Answers t adapter m answer question ∧ requests = [.search call t.request]
  resolves t time := d.rules.searches = false ∧ Answers t adapter m answer question ∧ time = now
  fails _ requests := requests = []
  shows query := ∃ completion, ReadFrom adapter m answer question completion query
  withdraws := False

/-- The terms of a deadline that passes. -/
def expiring (d : Desk) : Terms where
  waits _ _ := False
  resolves _ _ := False
  fails f requests :=
    (∃ seconds, d.rules.deadline = .after seconds ∧ f = .timeout seconds) ∧ requests = []
  shows _ := False
  withdraws := False

/-- The terms of a search service that is done with a resolution. -/
def searching (t : Resolution) (said : Except Trouble Unit) (now : Moment) : Terms where
  waits _ _ := False
  resolves u time := u = t ∧ said = .ok () ∧ time = now
  fails _ requests := requests = []
  shows query := query = t.query
  withdraws := ∃ reason, said = .error (.withdrawn reason)

/-- The terms of a caller who withdraws. -/
def withdrawing : Terms where
  waits _ _ := False
  resolves _ _ := False
  fails _ _ := False
  shows _ := False
  withdraws := True

/-- Terms that allow all that others allow, once some requests were made. -/
structure After (terms : Terms) (requests : List DeskEffect) (larger : Terms) : Prop where
  waits : ∀ p rs, terms.waits p rs → larger.waits p (requests ++ rs)
  resolves : ∀ t now, terms.resolves t now → larger.resolves t now
  fails : ∀ f rs, terms.fails f rs → larger.fails f (requests ++ rs)
  shows : ∀ q, terms.shows q → larger.shows q
  withdraws : terms.withdraws → larger.withdraws

end Terms

/-- The effect asks something of others. -/
def DeskEffect.isRequest : DeskEffect → Bool
  | send .. | search .. => true
  | _ => false

namespace Desk

variable {d : Desk} {call : Nat} {question : String} {terms : Terms}

/-- The shelf after a question was put into the history, if there is one. -/
def Kept (d : Desk) (question : String) (now : Moment) (shelf : Shelf) : Prop :=
  match d.rules.history with
  | none => shelf = d.shelf
  | some h => ∃ entry, h.append (.text question) .null now d.shelf = (.ok entry, shelf)

/-! ## Turns -/

/-- **What one step of a call comes to**: the call waits, or it ends in one of
    three ways.  A shelf in memory is as it was unless the call ended well. -/
inductive Turn (d : Desk) (call : Nat) (question : String) (terms : Terms) :
    Desk × List DeskEffect → Prop where
  | waits (p : Pending) (prompts : Prompt.Registry) (requests : List DeskEffect)
      (hp : terms.waits p requests) (hr : ∀ e ∈ requests, e.isRequest = true) :
      Turn d call question terms
        ({ d with outcome := p.outcome, prompts := prompts, pending := some (call, p) }, requests)
  | resolved (t : Resolution) (now : Moment) (prompts : Prompt.Registry) (shelf : Shelf)
      (requests : List DeskEffect) (ht : terms.resolves t now)
      (hk : d.Kept question now shelf) (hr : ∀ e ∈ requests, e.isRequest = true) :
      Turn d call question terms
        ({ d with outcome := .resolved question t, prompts := prompts, shelf := shelf,
                  pending := none }, requests ++ [.finish call (.ok t)])
  | failed (f : Failure) (query : Option Query) (prompts : Prompt.Registry) (shelf : Shelf)
      (requests : List DeskEffect) (hf : terms.fails f requests)
      (hq : ∀ q, query = some q → terms.shows q)
      (hs : ∀ data, d.shelf.store = .memory data → shelf = d.shelf)
      (hr : ∀ e ∈ requests, e.isRequest = true) :
      Turn d call question terms
        ({ d with outcome := .failed question query f, prompts := prompts, shelf := shelf,
                  pending := none }, requests ++ [.finish call (.error (.failure f))])
  | withdrawn (p : Pending) (reason : String) (prompts : Prompt.Registry)
      (requests : List DeskEffect) (hw : terms.withdraws)
      (hr : ∀ e ∈ requests, e.isRequest = true) :
      Turn d call question terms
        ({ d with outcome := p.outcome, prompts := prompts, pending := none },
          requests ++ [.finish call (.error (.withdrawn reason))])

/-- A turn that follows requests of the same call is a turn of the desk before
    them: of the desk, only the rules, the shelf and the abandoned exchanges
    matter to it. -/
theorem Turn.after {larger : Terms} {o : Outcome} {ps : Prompt.Registry}
    {p : Option (Nat × Pending)} {requests : List DeskEffect} {r : Desk × List DeskEffect}
    (h : Turn { d with outcome := o, prompts := ps, pending := p } call question terms r)
    (hr : ∀ e ∈ requests, e.isRequest = true) (hl : terms.After requests larger) :
    Turn d call question larger (r.1, requests ++ r.2) := by
  have all {rs : List DeskEffect} (hs : ∀ e ∈ rs, e.isRequest = true) :
      ∀ e ∈ requests ++ rs, e.isRequest = true := by
    intro e he
    rcases List.mem_append.1 he with he | he
    · exact hr e he
    · exact hs e he
  cases h with
  | waits p prompts rs hp hs => exact .waits p prompts _ (hl.waits p rs hp) (all hs)
  | resolved t now prompts shelf rs ht hk hs =>
    rw [← List.append_assoc]
    exact .resolved t now prompts shelf _ (hl.resolves t now ht) hk (all hs)
  | failed f query prompts shelf rs hf hq hm hs =>
    rw [← List.append_assoc]
    exact .failed f query prompts shelf _ (hl.fails f rs hf) (fun q h => hl.shows q (hq q h)) hm
      (all hs)
  | withdrawn p reason prompts rs hw hs =>
    rw [← List.append_assoc]
    exact .withdrawn p reason prompts _ (hl.withdraws hw) (all hs)

theorem Turn.of_outcome {o : Outcome} {r : Desk × List DeskEffect}
    (h : Turn { d with outcome := o } call question terms r) : Turn d call question terms r := by
  show Turn d call question terms (r.1, [] ++ r.2)
  exact h.after (by simp) ⟨fun _ _ => id, fun _ _ => id, fun _ _ => id, fun _ => id, id⟩

/-! ## Refusing -/

theorem refuse_of_within {t : Trouble} {f : Failure} (h : t.within unexpected = .failure f)
    (d : Desk) (call : Nat) :
    d.refuse call t = ({ d with outcome := d.outcome.fail f, pending := none },
      [.finish call (.error (.failure f))]) := by
  unfold refuse; rw [h]

theorem refuse_turn {t : Trouble} (d : Desk) (call : Nat) (stage : RequestStage)
    (query : Option Query) (prompts : Prompt.Registry) (shelf : Shelf)
    (hf : ∃ f, t.within unexpected = .failure f ∧ terms.fails f [])
    (hq : ∀ q, query = some q → terms.shows q)
    (hs : ∀ data, d.shelf.store = .memory data → shelf = d.shelf) :
    Turn d call question terms
      (({ d with outcome := { stage := stage, question := question, query := query },
                 prompts := prompts, shelf := shelf } : Desk).refuse call t) := by
  obtain ⟨f, ht, hf⟩ := hf
  rw [refuse_of_within ht]
  exact .failed f query prompts shelf [] hf hq hs (by simp)

/-! ## Asking -/

theorem prepare_cases (d : Desk) (question : String) (config : ClientConfig) :
    ∃ prompts, (∃ t, d.prepare question config = (.error t, { d with prompts := prompts }) ∧
        t.isOrdinary = true) ∨
      ∃ m prompt, d.prepare question config = (.ok (m, prompt), { d with prompts := prompts }) ∧
        Text.allBlank question = false ∧ Gateway.validate config = .ok m ∧
        (d.prompts.questionPrompt question).1 = .ok prompt := by
  unfold prepare
  by_cases hb : Text.allBlank question = true
  · rw [if_pos hb]
    exact ⟨d.prompts, Or.inl ⟨_, rfl, rfl⟩⟩
  · rw [if_neg hb]
    rcases hv : Gateway.validate config with f | m
    · exact ⟨d.prompts, Or.inl ⟨_, rfl, validate_ordinary hv⟩⟩
    · rcases hp : d.prompts.questionPrompt question with ⟨t | prompt, prompts⟩
      · refine ⟨prompts, Or.inl ⟨t, ?_, questionPrompt_ordinary (by rw [hp])⟩⟩
        rfl
      · refine ⟨prompts, Or.inr ⟨m, prompt, ?_, by simpa using hb, rfl, rfl⟩⟩
        rfl

/-- A call for which nobody can wait fails, and its post goes out all the same. -/
theorem refuseWaiting_turn {m : ModelIdentity} {adapter : Adapter} {prompt : String}
    {config : ClientConfig} (d : Desk) (call : Nat) (prompts : Prompt.Registry) (f : Fault)
    (hpost : ∀ post, adapter.post (.text prompt) = .ok post →
      PostedFor d.prompts question config m adapter post) :
    Turn d call question (.asking d call question config)
      (({ d with outcome := { stage := .awaitingModel, question := question },
                 prompts := prompts } : Desk).refuseWaiting call f
        (adapter.post (.text prompt))) := by
  obtain ⟨g, hg, hb⟩ := Trouble.within_of_ordinary unexpected (t := .fault f) rfl
  unfold refuseWaiting
  rw [refuse_of_within hg]
  rcases hp : adapter.post (.text prompt) with fault | post
  · exact .failed g none prompts d.shelf [] ⟨hb, Or.inl rfl⟩ (by simp) (fun _ _ => rfl) (by simp)
  · exact .failed g none prompts d.shelf [.send call post]
      ⟨hb, Or.inr ⟨m, adapter, post, hpost post hp, rfl⟩⟩ (by simp) (fun _ _ => rfl)
      (by simp [DeskEffect.isRequest])

/-- **Asking is a turn**: the call waits for the model, or it fails. -/
theorem accept_turn {v : Json} (hv : questionText v = .ok question) (d : Desk) (call : Nat)
    (config : ClientConfig) :
    Turn d call question (.asking d call question config) (d.accept call v config) := by
  unfold accept
  rw [hv]
  dsimp only
  -- every branch but the last two refuses, at one of two stages
  have ordinary {t : Trouble} (ht : t.isOrdinary = true) (stage : RequestStage)
      (prompts : Prompt.Registry) : Turn d call question (.asking d call question config)
        (({ d with outcome := { stage := stage, question := question },
                   prompts := prompts } : Desk).refuse call t) := by
    obtain ⟨f, hf, hb⟩ := Trouble.within_of_ordinary unexpected ht
    exact refuse_turn d call stage none prompts d.shelf ⟨f, hf, hb, Or.inl rfl⟩ (by simp)
      (fun _ _ => rfl)
  obtain ⟨prompts, ⟨t, hp, ht⟩ | ⟨m, prompt, hp, hi, hm, hq⟩⟩ := prepare_cases
    { d with outcome := { stage := .validating, question := question } } question config
  · rw [hp]
    exact ordinary ht _ prompts
  · rw [hp]
    dsimp only
    rcases ha : Gateway.adapterFor config m with f | adapter
    · exact ordinary rfl _ prompts
    · have hpost (post : Post) (h : adapter.post (.text prompt) = .ok post) :
          PostedFor d.prompts question config m adapter post := ⟨hi, hm, ha, prompt, hq, h⟩
      dsimp only
      rcases hd : d.rules.deadline.fault? with _ | f
      · rcases hp : adapter.post (.text prompt) with f | post
        · simp only [atStage, hd]
          exact ordinary rfl _ prompts
        · simp only [atStage, hd]
          exact .waits (.model question m adapter) prompts [.send call post]
            ⟨hd, m, adapter, post, rfl, hpost post hp, rfl⟩ (by simp [DeskEffect.isRequest])
      · simp only [atStage, hd]
        exact refuseWaiting_turn d call prompts f hpost

/-! ## Going on -/

/-- Putting a question into the history keeps it, or it fails; a failure leaves
    a shelf in memory as it was. -/
theorem remember_cases (d : Desk) (question : String) (now : Moment) :
    ∃ shelf, (d.remember question now = (.ok (), { d with shelf := shelf }) ∧
        d.Kept question now shelf) ∨
      ∃ t, d.remember question now = (.error t, { d with shelf := shelf }) ∧
        t.isWithdrawal = false ∧ ∀ data, d.shelf.store = .memory data → shelf = d.shelf := by
  unfold remember Kept
  rcases hh : d.rules.history with _ | h
  · exact ⟨d.shelf, Or.inl ⟨rfl, rfl⟩⟩
  · dsimp only
    rcases ha : h.append (.text question) .null now d.shelf with ⟨t | entry, shelf⟩
    · refine ⟨shelf, Or.inr ⟨t, rfl, History.append_not_withdrawn (by rw [ha]), ?_⟩⟩
      intro data hm
      rcases History.append_memory (h := h) hm question now with ⟨_, _, -, he⟩ | ⟨f, he⟩
      · rw [he] at ha; cases ha
      · rw [he] at ha; cases ha; rfl
    · exact ⟨shelf, Or.inl ⟨rfl, entry, rfl⟩⟩

theorem conclude_turn {t : Resolution} (d : Desk) (call : Nat)
    (ho : d.outcome = (Pending.search question t).outcome) (now : Moment)
    (ht : terms.resolves t now) (hq : terms.shows t.query) (hf : ∀ f, terms.fails f []) :
    Turn d call question terms (d.conclude call question t now) := by
  unfold conclude
  obtain ⟨shelf, ⟨hr, hk⟩ | ⟨u, hr, hu, hs⟩⟩ := remember_cases d question now
  · rw [hr]
    dsimp only
    rw [ho]
    exact .resolved t now d.prompts shelf [] ht hk (by simp)
  · rw [hr]
    dsimp only
    obtain ⟨f, hf'⟩ := Trouble.within_of_not_withdrawal unexpected hu
    rw [ho]
    exact refuse_turn d call .compiling (some t.query) d.prompts shelf ⟨f, hf', hf f⟩
      (by rintro q ⟨⟩; exact hq) hs

theorem resolve_turn {m : ModelIdentity} {adapter : Adapter} {answer : Answer}
    {completion : Completion} (hc : Gateway.completionFrom adapter m answer = .ok completion)
    (d : Desk) (call : Nat) (ho : d.outcome = (Pending.model question m adapter).outcome)
    (now : Moment) :
    Turn d call question (.answering d call question m adapter answer now)
      (d.resolve call question completion now) := by
  unfold resolve atStage
  rw [ho]
  dsimp only [Pending.outcome]
  have fails {t : Trouble} (ht : t.isWithdrawal = false) :
      ∃ f, t.within unexpected = .failure f ∧
        (Terms.answering d call question m adapter answer now).fails f [] :=
    let ⟨f, hf⟩ := Trouble.within_of_not_withdrawal unexpected ht; ⟨f, hf, rfl⟩
  rcases hq : Reply.queryOf completion.text question with t | query
  · exact refuse_turn d call _ none d.prompts d.shelf (fails (queryOf_not_withdrawn hq)) (by simp)
      (fun _ _ => rfl)
  · have hread : ReadFrom adapter m answer question completion query := ⟨hc, hq⟩
    dsimp only
    rcases hb : SearchRequest.build (Filters.ofQuery query) now d.rules.lookback d.rules.limit
      with f | request
    · dsimp only
      exact refuse_turn d call _ (some query) d.prompts d.shelf (fails rfl)
        (by rintro q ⟨⟩; exact ⟨completion, hread⟩) (fun _ _ => rfl)
    · dsimp only
      by_cases hs : d.rules.searches = true
      · rw [if_pos hs]
        exact .waits (.search question ⟨query, Filters.ofQuery query, completion, request⟩)
          d.prompts [.search call request] ⟨_, rfl, hs, ⟨hread, rfl⟩, rfl⟩
          (by simp [DeskEffect.isRequest])
      · rw [if_neg hs]
        refine Turn.of_outcome (conclude_turn _ call rfl now ?_ ?_ fun _ => rfl)
        · exact ⟨by simpa using hs, ⟨hread, rfl⟩, rfl⟩
        · exact ⟨completion, hread⟩

/-- **An answer is a turn**: the call goes on with what the reply says, or it fails. -/
theorem resume_turn {m : ModelIdentity} {adapter : Adapter} (d : Desk) (call : Nat)
    (ho : d.outcome = (Pending.model question m adapter).outcome) (answer : Answer)
    (now : Moment) :
    Turn d call question (.answering d call question m adapter answer now)
      (d.resume call question m adapter answer now) := by
  unfold resume
  rcases hc : Gateway.completionFrom adapter m answer with t | completion
  · obtain ⟨f, hf⟩ := Trouble.within_of_not_withdrawal unexpected (completionFrom_not_withdrawn hc)
    dsimp only
    rw [refuse_of_within hf, ho]
    exact .failed f none d.prompts d.shelf [] rfl (by simp) (fun _ _ => rfl) (by simp)
  · exact resolve_turn hc d call ho now

end Desk

end SpanQuest
