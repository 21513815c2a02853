/-
  One call, from its question to its end.

  `Others` is what others do about a call: what the backend answers before the
  deadline, if it does, and what the search service says.  `Desk.serve` lets
  them act whenever the call waits for them, and so follows the call to its end.

  * `serve_eq_run`: to follow a call is to run its events;
  * `serve_turn`: the desk after the call and all its effects are what one turn
    makes of them, on the terms of the whole call;
  * `serve_ends`: the call ends in one of two ways.  Either it ends well, the
    outcome tells the query and its filters, and the question was put into the
    history once; or it fails, the outcome tells the failure, and the history
    is as it was.
-/
import Mathlib.Logic.Basic
import SpanQuest.Proofs.Desk.Step

namespace SpanQuest

open Backend

/-! ## Following a call -/

/-- What others do about one call, and the time at which the desk then goes on. -/
structure Others where
  /-- What the backend answers; none if it does not before the deadline. -/
  answer : Option (Answer × Moment)
  /-- What the search service says of the request, if there is one. -/
  said : Except Trouble Unit
  saidAt : Moment

/-- What happens to a call that waits. -/
def Others.event (o : Others) (call : Nat) : Pending → DeskEvent
  | .model .. =>
    match o.answer with
    | some (answer, now) => .answer call answer now
    | none => .expire call
  | .search .. => .searched call o.said o.saidAt

theorem Others.event_not_ask (o : Others) (call : Nat) (p : Pending) :
    (o.event call p).isAsk = false := by
  cases p with
  | search => rfl
  | model =>
    unfold Others.event
    rcases o.answer with _ | ⟨answer, now⟩ <;> rfl

/-- The query was read out of what the backend answered to the call. -/
def Others.Replied (o : Others) (config : ClientConfig) (question : String)
    (completion : Completion) (query : Query) : Prop :=
  ∃ m adapter answer time, o.answer = some (answer, time) ∧ Gateway.validate config = .ok m ∧
    Gateway.adapterFor config m = .ok adapter ∧
    ReadFrom adapter m answer question completion query

namespace Desk

variable {d : Desk} {call : Nat} {question : String} {config : ClientConfig} {o : Others}

/-- The call that waits, if any, goes on. -/
def goOn (d : Desk) (o : Others) : Desk × List DeskEffect :=
  match d.pending with
  | some (call, p) => d.step (o.event call p)
  | none => (d, [])

/-- A call until the backend has answered it, or the deadline has passed. -/
def serveModel (d : Desk) (call : Nat) (v : Json) (config : ClientConfig) (o : Others) :
    Desk × List DeskEffect :=
  let (d, asked) := d.step (.ask call v config)
  let (d, answered) := d.goOn o
  (d, asked ++ answered)

/-- A call until its end. -/
def serve (d : Desk) (call : Nat) (v : Json) (config : ClientConfig) (o : Others) :
    Desk × List DeskEffect :=
  let (d, before) := d.serveModel call v config o
  let (d, searched) := d.goOn o
  (d, before ++ searched)

theorem goOn_none (h : d.pending = none) (o : Others) : d.goOn o = (d, []) := by
  unfold goOn; rw [h]

theorem goOn_some {p : Pending} (h : d.pending = some (call, p)) (o : Others) :
    d.goOn o = d.step (o.event call p) := by
  unfold goOn; rw [h]

theorem goOn_eq_run (d : Desk) (o : Others) :
    ∃ es, (∀ e ∈ es, e.isAsk = false) ∧ d.goOn o = d.run es := by
  rcases hp : d.pending with _ | ⟨call, p⟩
  · exact ⟨[], by simp, goOn_none hp o⟩
  · refine ⟨[o.event call p], ?_, ?_⟩
    · intro e he
      rw [List.mem_singleton.1 he]
      exact o.event_not_ask call p
    · rw [goOn_some hp, run_singleton]

/-- To follow a call is to run its events. -/
theorem serve_eq_run (d : Desk) (call : Nat) (v : Json) (config : ClientConfig) (o : Others) :
    ∃ es, (∀ e ∈ es, e.isAsk = false) ∧
      d.serve call v config o = d.run (.ask call v config :: es) := by
  obtain ⟨first, hfirst, hone⟩ := goOn_eq_run (d.step (.ask call v config)).1 o
  obtain ⟨second, hsecond, htwo⟩ := goOn_eq_run (d.serveModel call v config o).1 o
  refine ⟨first ++ second, ?_, ?_⟩
  · intro e he
    rcases List.mem_append.1 he with he | he
    · exact hfirst e he
    · exact hsecond e he
  · unfold serve
    dsimp only
    rw [htwo]
    unfold serveModel
    dsimp only
    rw [hone, run_cons, run_append, List.append_assoc]

/-! ## The turns of a call -/

/-- The search service was done with a resolution at the time `now`.  The call
    waited for it until then, and the shelf was as at the start. -/
structure HandedOff (d : Desk) (call : Nat) (question : String) (config : ClientConfig)
    (o : Others) (t : Resolution) (now : Moment) : Prop where
  asked : .search call t.request ∈ (d.serveModel call (.text question) config o).2
  waits : (d.serveModel call (.text question) config o).1.pending = some (call, .search question t)
  shelf : (d.serveModel call (.text question) config o).1.shelf = d.shelf
  said : o.said = .ok ()
  time : now = o.saidAt

/-- The terms of a call until the backend has answered it. -/
def modelTerms (d : Desk) (call : Nat) (question : String) (config : ClientConfig) (o : Others) :
    Terms where
  waits p requests := ∃ t, p = .search question t ∧ d.rules.searches = true ∧
    o.Replied config question t.completion t.query ∧ t.filters = Filters.ofQuery t.query ∧
    .search call t.request ∈ requests
  resolves t now := d.rules.searches = false ∧ o.Replied config question t.completion t.query ∧
    t.filters = Filters.ofQuery t.query ∧ ∃ answer, o.answer = some (answer, now)
  fails _ _ := True
  shows query := ∃ completion, o.Replied config question completion query
  withdraws := False

/-- The terms of a whole call. -/
def callTerms (d : Desk) (call : Nat) (question : String) (config : ClientConfig) (o : Others) :
    Terms where
  waits _ _ := False
  resolves t now := o.Replied config question t.completion t.query ∧
    t.filters = Filters.ofQuery t.query ∧
    (d.rules.searches = false → ∃ answer, o.answer = some (answer, now)) ∧
    (d.rules.searches = true → d.HandedOff call question config o t now)
  fails _ _ := True
  shows query := ∃ completion, o.Replied config question completion query
  withdraws := False

theorem expiring_after {d' : Desk} (d : Desk) (requests : List DeskEffect) :
    (Terms.expiring d').After requests (d.modelTerms call question config o) where
  waits _ _ := False.elim
  resolves _ _ := False.elim
  fails _ _ _ := trivial
  shows _ := False.elim
  withdraws := False.elim

/-- What an answer may come to is what the call may come to, if the answer is to
    what was posted for it. -/
theorem answering_after {d' : Desk} {m : ModelIdentity} {adapter : Adapter} {post : Post}
    {answer : Answer} {time : Moment} (hrules : d'.rules = d.rules)
    (ho : o.answer = some (answer, time))
    (hpost : PostedFor d.prompts question config m adapter post)
    (requests : List DeskEffect) :
    (Terms.answering d' call question m adapter answer time).After requests
      (d.modelTerms call question config o) := by
  have replied {completion : Completion} {query : Query}
      (h : ReadFrom adapter m answer question completion query) :
      o.Replied config question completion query :=
    ⟨m, adapter, answer, time, ho, hpost.valid, hpost.adapts, h⟩
  refine ⟨?_, ?_, ?_, ?_, ?_⟩
  · rintro p rs ⟨t, rfl, hs, ha, rfl⟩
    exact ⟨t, rfl, hrules ▸ hs, replied ha.reads, ha.filters, by simp⟩
  · rintro t now ⟨hs, ha, rfl⟩
    exact ⟨hrules ▸ hs, replied ha.reads, ha.filters, answer, ho⟩
  · exact fun _ _ _ => trivial
  · rintro q ⟨completion, hc⟩
    exact ⟨completion, replied hc⟩
  · exact False.elim

/-- Until the backend has answered it a call takes one turn, except that its
    exchange may have been abandoned. -/
theorem serveModel_turn (hidle : d.busy = false)
    (hdead : o.answer = none → d.rules.deadline ≠ .never) (call : Nat) (question : String)
    (config : ClientConfig) :
    ∃ left, Turn { d with abandoned := left } call question
      (d.modelTerms call question config o) (d.serveModel call (.text question) config o) := by
  have h : Turn d call question (.asking d call question config)
      (d.step (.ask call (.text question) config)) := by
    rw [step_admitted hidle]
    exact accept_turn rfl d call config
  unfold serveModel
  generalize d.step (.ask call (.text question) config) = r at h
  cases h with
  | resolved t now prompts shelf requests ht => exact ht.elim
  | withdrawn p reason prompts requests hw => exact hw.elim
  | failed f query prompts shelf requests hf hq hm hr =>
    dsimp only
    rw [goOn_none rfl, List.append_nil]
    exact ⟨d.abandoned, .failed f query prompts shelf requests trivial
      (fun q h => (hq q h).elim) hm hr⟩
  | waits p prompts requests hp hr =>
    obtain ⟨hfault, m, adapter, post, rfl, hpost, rfl⟩ := hp
    have hsound := sound_of_waiting d (.model question m adapter) prompts call
    dsimp only
    rw [goOn_some rfl]
    rcases ho : o.answer with _ | ⟨answer, time⟩
    · obtain ⟨seconds, hs⟩ : ∃ seconds, d.rules.deadline = .after seconds := by
        have := hdead ho
        cases hd : d.rules.deadline <;> simp_all [Deadline.fault?]
      have he : o.event call (.model question m adapter) = .expire call := by
        simp only [Others.event, ho]
      rw [he]
      obtain ⟨left, -, ht⟩ := expire_turn hsound rfl hs
      exact ⟨left, ht.after hr (expiring_after d _)⟩
    · have he : o.event call (.model question m adapter) = .answer call answer time := by
        simp only [Others.event, ho]
      rw [he, step_answer rfl]
      have ht := resume_turn _ call (hsound call _ rfl) answer time
      exact ⟨d.abandoned, ht.after hr (answering_after rfl ho hpost _)⟩

theorem searching_after {t : Resolution}
    (hsaid : ∀ reason, o.said ≠ .error (.withdrawn reason))
    (hreplied : o.Replied config question t.completion t.query)
    (hfilters : t.filters = Filters.ofQuery t.query)
    (hs : d.rules.searches = true)
    (hhanded : o.said = .ok () → d.HandedOff call question config o t o.saidAt)
    (requests : List DeskEffect) :
    (Terms.searching t o.said o.saidAt).After requests (d.callTerms call question config o) := by
  refine ⟨?_, ?_, ?_, ?_, ?_⟩
  · exact fun _ _ h => h.elim
  · rintro u now ⟨rfl, hok, rfl⟩
    exact ⟨hreplied, hfilters, by simp [hs], fun _ => hhanded hok⟩
  · exact fun _ _ _ => trivial
  · rintro q rfl
    exact ⟨t.completion, hreplied⟩
  · rintro ⟨reason, hw⟩
    exact hsaid reason hw

theorem serve_turn (hidle : d.busy = false)
    (hdead : o.answer = none → d.rules.deadline ≠ .never)
    (hsaid : ∀ reason, o.said ≠ .error (.withdrawn reason)) (call : Nat) (question : String)
    (config : ClientConfig) :
    ∃ left, Turn { d with abandoned := left } call question
      (d.callTerms call question config o) (d.serve call (.text question) config o) := by
  obtain ⟨left, h⟩ := serveModel_turn hidle hdead call question config
  refine ⟨left, ?_⟩
  unfold serve
  generalize hm : d.serveModel call (.text question) config o = r at h
  cases h with
  | withdrawn p reason prompts requests hw => exact hw.elim
  | failed f query prompts shelf requests hf hq hs hr =>
    dsimp only
    rw [goOn_none rfl, List.append_nil]
    exact .failed f query prompts shelf requests trivial hq hs hr
  | resolved t now prompts shelf requests ht hk hr =>
    obtain ⟨hs, hreplied, hfilters, hanswer⟩ := ht
    dsimp only
    rw [goOn_none rfl, List.append_nil]
    exact .resolved t now prompts shelf requests
      ⟨hreplied, hfilters, fun _ => hanswer, by simp [hs]⟩ hk hr
  | waits p prompts requests hp hr =>
    obtain ⟨t, rfl, hs, hreplied, hfilters, hasked⟩ := hp
    have hsound := sound_of_waiting { d with abandoned := left } (.search question t) prompts call
    have hhanded : o.said = .ok () → d.HandedOff call question config o t o.saidAt := by
      intro hok
      refine ⟨?_, ?_, ?_, hok, rfl⟩
      · rw [hm]; exact hasked
      · rw [hm]
      · rw [hm]
    dsimp only
    rw [goOn_some rfl]
    exact (searched_turn hsound rfl o.said o.saidAt).after hr
      (searching_after hsaid hreplied hfilters hs hhanded _)

/-! ## The two ends of a call -/

/-- What is in memory once a question was put into the history, if there is one,
    at the time `now`: under the key of the history stand the question and, as
    far as the limit goes, the entries of before. -/
def KeptInMemory (d : Desk) (question : String) (now : Moment) (data data' : Mapping Json) :
    Prop :=
  match d.rules.history with
  | none => data' = data
  | some h => ∃ old kept, History.Pushed h ⟨question, now.historyMillis⟩ data old kept ∧
      data' = Mapping.put h.key (.text (History.encode kept)) data

theorem Kept.inMemory {data : Mapping Json} {now : Moment} {shelf : Shelf}
    (h : d.Kept question now shelf) (hm : d.shelf.store = .memory data) :
    ∃ data', shelf = { d.shelf with store := .memory data' } ∧
      d.KeptInMemory question now data data' := by
  unfold Kept at h
  unfold KeptInMemory
  rcases hh : d.rules.history with _ | history
  · rw [hh] at h
    dsimp only at h
    refine ⟨data, ?_, rfl⟩
    rw [h, ← hm]
  · rw [hh] at h
    obtain ⟨entry, ha⟩ := h
    rcases History.append_memory (h := history) hm question now with ⟨old, kept, hp, he⟩ | ⟨f, he⟩
    · rw [he] at ha
      cases ha
      exact ⟨_, rfl, old, kept, hp, rfl⟩
    · rw [he] at ha; cases ha

/-- A call ended well: its caller has the resolution `t`, the outcome tells its
    query and its filters, and its question was put into the history once: when
    the search service was done, or, if there is none, when the answer came. -/
structure EndsWell (d : Desk) (data : Mapping Json) (call : Nat) (question : String)
    (config : ClientConfig) (o : Others) (after : Desk × List DeskEffect) (t : Resolution) :
    Prop where
  told : endings after.2 = [(call, .ok t)]
  idle : after.1.busy = false
  stage : after.1.outcome.stage = .done
  asked : after.1.outcome.question = question
  errorKind : after.1.outcome.errorKind = none
  errorMessage : after.1.outcome.errorMessage = none
  query : after.1.outcome.query = some t.query
  filters : after.1.outcome.filters = some t.filters
  compiled : t.filters = Filters.ofQuery t.query
  replied : o.Replied config question t.completion t.query
  kept : ∃ now data', d.KeptInMemory question now data data' ∧
    after.1.shelf = { d.shelf with store := .memory data' } ∧
    (d.rules.searches = false → ∃ answer, o.answer = some (answer, now)) ∧
    (d.rules.searches = true → d.HandedOff call question config o t now)

/-- A call failed: its caller is told of the failure `f`, the outcome tells it,
    and the shelf is as it was.  A query that the outcome shows was read out of
    the answer to this call. -/
structure Fails (d : Desk) (call : Nat) (question : String) (config : ClientConfig) (o : Others)
    (after : Desk × List DeskEffect) (f : Failure) : Prop where
  told : endings after.2 = [(call, .error (.failure f))]
  idle : after.1.busy = false
  stage : after.1.outcome.stage = .done
  asked : after.1.outcome.question = question
  errorKind : after.1.outcome.errorKind = some f.kind.name
  errorMessage : after.1.outcome.errorMessage = some f.message
  filters : after.1.outcome.filters = none
  query : ∀ query, after.1.outcome.query = some query →
    ∃ completion, o.Replied config question completion query
  shelf : after.1.shelf = d.shelf

theorem EndsWell.not_fails {data : Mapping Json} {after : Desk × List DeskEffect}
    {t : Resolution} {f : Failure} (hw : EndsWell d data call question config o after t) :
    ¬ Fails d call question config o after f := by
  intro hf
  have := hw.told.symm.trans hf.told
  simp at this

theorem Turn.ends {data : Mapping Json} {left : List Abandoned} {r : Desk × List DeskEffect}
    (hmem : d.shelf.store = .memory data)
    (h : Turn { d with abandoned := left } call question (d.callTerms call question config o) r) :
    (∃ t, EndsWell d data call question config o r t) ∨
      ∃ f, Fails d call question config o r f := by
  cases h with
  | waits p prompts requests hp => exact hp.elim
  | resolved t now prompts shelf requests ht hk hr =>
    obtain ⟨hreplied, hfilters, hanswered, hhanded⟩ := ht
    obtain ⟨data', hshelf, hkept⟩ := hk.inMemory hmem
    exact Or.inl ⟨t, endings_requests_finish hr call _, rfl, rfl, rfl, rfl, rfl, rfl, rfl, hfilters,
      hreplied, now, data', hkept, hshelf, hanswered, hhanded⟩
  | failed f query prompts shelf requests _ hq hs hr =>
    exact Or.inr ⟨f, endings_requests_finish hr call _, rfl, rfl, rfl, rfl, rfl, rfl, hq,
      hs data hmem⟩
  | withdrawn p reason prompts requests hw => exact hw.elim

/-- **A call ends in exactly one of two ways**: well, or with a failure.  Others
    do as they like, but a backend that never answers is given a deadline, and
    the search service does not withdraw the call. -/
theorem serve_ends (d : Desk) {data : Mapping Json} (hidle : d.busy = false)
    (hmem : d.shelf.store = .memory data) (o : Others)
    (hdead : o.answer = none → d.rules.deadline ≠ .never)
    (hsaid : ∀ reason, o.said ≠ .error (.withdrawn reason)) (call : Nat) (question : String)
    (config : ClientConfig) :
    Xor
      (∃ t, EndsWell d data call question config o (d.serve call (.text question) config o) t)
      (∃ f, Fails d call question config o (d.serve call (.text question) config o) f) := by
  obtain ⟨left, h⟩ := serve_turn hidle hdead hsaid call question config
  rcases h.ends hmem with ⟨t, hw⟩ | ⟨f, hf⟩
  · exact Or.inl ⟨⟨t, hw⟩, fun ⟨_, hf⟩ => hw.not_fails hf⟩
  · exact Or.inr ⟨⟨f, hf⟩, fun ⟨_, hw⟩ => hw.not_fails hf⟩

/-- A backend that does not answer in time, and a search service that would fail. -/
def sampleOthers : Others := ⟨none, .error (.fault (.foreign "RuntimeError" "search down")), ⟨0⟩⟩

theorem serve_ends_sample :
    sample.busy = false ∧ sample.shelf.store = .memory [(History.defaultKey, .text "[]")] ∧
      sample.rules.deadline ≠ .never ∧ (∀ reason, sampleOthers.said ≠ .error (.withdrawn reason)) ∧
      Xor
        (∃ t, EndsWell sample [(History.defaultKey, .text "[]")] 0 "slow requests" sampleConfig
          sampleOthers (sample.serve 0 (.text "slow requests") sampleConfig sampleOthers) t)
        (∃ f, Fails sample 0 "slow requests" sampleConfig sampleOthers
          (sample.serve 0 (.text "slow requests") sampleConfig sampleOthers) f) := by
  have hd : sample.rules.deadline ≠ .never := by simp [sample]
  have hs : ∀ reason, sampleOthers.said ≠ .error (.withdrawn reason) := by simp [sampleOthers]
  exact ⟨rfl, rfl, hd, hs, serve_ends sample rfl rfl sampleOthers (fun _ => hd) hs 0
    "slow requests" sampleConfig⟩

end Desk

end SpanQuest
