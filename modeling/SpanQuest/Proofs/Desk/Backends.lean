/-
  One call over either backend.

  Once the backend has told a text, nothing of the call depends on which backend
  it was, except that the completion names its model.  So the same question,
  asked over the two backends and answered with one text, leaves the desk the
  same, asks the same of the search service, and ends in the same way.

  * `resolve_ofModel`, `goOn_ofModel`: a call goes on with a completion of
    another model as it does with this one;
  * `serve_ready`: two calls with configurations that are ready, and one text;
  * `serve_backends`: a hosted model and a local one.
-/
import SpanQuest.Proofs.Backend.Response
import SpanQuest.Proofs.Desk.Call
import SpanQuest.Proofs.Json.Bytes

namespace SpanQuest

open Backend

/-! ## Another model -/

/-- The resolution with a completion of the model. -/
def Resolution.ofModel (m : ModelIdentity) (t : Resolution) : Resolution :=
  { t with completion := { t.completion with model := m } }

/-- What is waited for, with a completion of the model. -/
def Pending.ofModel (m : ModelIdentity) : Pending → Pending
  | .search question t => .search question (t.ofModel m)
  | .model question identity adapter => .model question identity adapter

/-- The effect with a completion of the model. -/
def DeskEffect.ofModel (m : ModelIdentity) : DeskEffect → DeskEffect
  | .finish call result => .finish call (result.map (Resolution.ofModel m))
  | .send call post => .send call post
  | .search call request => .search call request
  | .discard call result => .discard call result

/-- The configuration can be sent, and every prompt goes out with it. -/
structure Gateway.Ready (config : ClientConfig) (m : ModelIdentity) (adapter : Adapter) :
    Prop where
  valid : Gateway.validate config = .ok m
  adapts : Gateway.adapterFor config m = .ok adapter
  posts : ∀ prompt : String, ∃ post, adapter.post (.text prompt) = .ok post

theorem Gateway.ready_hosted {config : ClientConfig} {m : ModelIdentity}
    (hvalid : Gateway.validate config = .ok m) (hm : m.isHosted = true)
    (hascii : ∀ key, config.apiKey = some key → ∀ c ∈ key.toList, c.toNat < 128) :
    ∃ adapter, Gateway.Ready config m adapter ∧ adapter.addressFault? = none ∧
      ∀ body s, adapter.Carries body s ↔ Hosted.Carries body s := by
  obtain ⟨-, hcredential⟩ := Gateway.validate_eq_ok hvalid
  obtain ⟨key, -, hadapter⟩ := Gateway.adapterFor_hosted hm (hcredential hm)
  obtain ⟨_, heq, hfull, hposts⟩ := Gateway.exists_post hvalid fun _ => hascii
  cases hadapter.symm.trans heq
  exact ⟨_, ⟨hvalid, hadapter, hposts (hfull hm)⟩, hfull hm, fun _ _ => Iff.rfl⟩

theorem Gateway.ready_local {config : ClientConfig} {m : ModelIdentity}
    (hvalid : Gateway.validate config = .ok m) (hm : m.isHosted = false)
    (haddress : ∀ adapter, Gateway.adapterFor config m = .ok adapter →
      adapter.addressFault? = none) :
    ∃ adapter, Gateway.Ready config m adapter ∧ adapter.addressFault? = none ∧
      ∀ body s, adapter.Carries body s ↔ Local.Carries body s := by
  have hadapter : Gateway.adapterFor config m =
      .ok (.ollama (.ofOption config.localModel) (config.endpointFor m) defaultTemperature) :=
    Gateway.adapterFor_local hm
  have hkeyless : m.isHosted = true → ∀ key, config.apiKey = some key →
      ∀ c ∈ key.toList, c.toNat < 128 := by
    intro h
    rw [hm] at h
    cases h
  obtain ⟨_, heq, -, hposts⟩ := Gateway.exists_post hvalid hkeyless
  cases hadapter.symm.trans heq
  have hfull := haddress _ hadapter
  exact ⟨_, ⟨hvalid, hadapter, hposts hfull⟩, hfull, fun _ _ => Iff.rfl⟩

namespace Desk

/-- The desk and its effects with a completion of the model. -/
def ofModel (m : ModelIdentity) (r : Desk × List DeskEffect) : Desk × List DeskEffect :=
  ({ r.1 with pending := r.1.pending.map fun p => (p.1, p.2.ofModel m) },
    r.2.map (DeskEffect.ofModel m))

variable {d : Desk} {call : Nat} {question : String} {m : ModelIdentity}

theorem ofModel_of_idle {r : Desk × List DeskEffect} (h : r.1.pending = none) :
    ofModel m r = (r.1, r.2.map (DeskEffect.ofModel m)) := by
  unfold ofModel
  rw [h, Option.map_none, ← h]

theorem refuse_ofModel (d : Desk) (p : Option (Nat × Pending)) (call : Nat) (t : Trouble)
    (m : ModelIdentity) :
    ({ d with pending := p } : Desk).refuse call t = ofModel m (d.refuse call t) := by
  rw [ofModel_of_idle (d.refuse_pending call t)]
  unfold refuse
  rcases t.within unexpected with f | f | r | reason <;> rfl

theorem conclude_ofModel (d : Desk) (p : Option (Nat × Pending)) (call : Nat) (question : String)
    (t : Resolution) (now : Moment) (m : ModelIdentity) :
    ({ d with pending := p } : Desk).conclude call question (t.ofModel m) now =
      ofModel m (d.conclude call question t now) := by
  have hremember : ({ d with pending := p } : Desk).remember question now =
      ((d.remember question now).1, { (d.remember question now).2 with pending := p }) := by
    unfold remember
    dsimp only
    rcases d.rules.history with _ | h <;> rfl
  unfold conclude
  rw [hremember]
  rcases d.remember question now with ⟨trouble | ⟨⟨⟩⟩, d'⟩
  · exact refuse_ofModel d' p call trouble m
  · rfl

/-- **A text is resolved alike** whichever model it is of. -/
theorem resolve_ofModel (d : Desk) (p : Option (Nat × Pending)) (call : Nat) (question : String)
    (completion : Completion) (now : Moment) (m : ModelIdentity) :
    ({ d with pending := p } : Desk).resolve call question { completion with model := m } now =
      ofModel m (d.resolve call question completion now) := by
  unfold resolve
  dsimp only [atStage]
  rcases Reply.queryOf completion.text question with t | query
  · exact refuse_ofModel (d.atStage .extracting) p call t m
  · dsimp only
    let d' := { d with outcome := { d.outcome with query := some query, stage := .compiling } }
    rcases SearchRequest.build (Filters.ofQuery query) now d.rules.lookback d.rules.limit
      with f | request
    · exact refuse_ofModel d' p call (.fault f) m
    · dsimp only
      by_cases hs : d.rules.searches = true
      · rw [if_pos hs, if_pos hs]
        rfl
      · rw [if_neg hs, if_neg hs]
        exact conclude_ofModel d' p call question
          ⟨query, Filters.ofQuery query, completion, request⟩ now m

/-! ## The end of a call -/

/-- The call has ended, and if it ended well, then with the completion. -/
structure Ended (call : Nat) (completion : Completion) (r : Desk × List DeskEffect) : Prop where
  idle : r.1.pending = none
  told : ∃ result, r.2 = [.finish call result] ∧ ∀ t, result = .ok t → t.completion = completion

theorem refuse_ended (d : Desk) (call : Nat) (t : Trouble) (completion : Completion) :
    Ended call completion (d.refuse call t) := by
  unfold refuse
  rcases t.within unexpected with f | f | r | reason <;>
    exact ⟨rfl, _, rfl, fun _ h => by cases h⟩

theorem conclude_ended (d : Desk) (call : Nat) (question : String) (t : Resolution)
    (now : Moment) : Ended call t.completion (d.conclude call question t now) := by
  unfold conclude
  rcases d.remember question now with ⟨trouble | ⟨⟨⟩⟩, d'⟩
  · exact refuse_ended d' call trouble t.completion
  · refine ⟨rfl, _, rfl, ?_⟩
    rintro u hu
    cases hu
    rfl

theorem resolve_cases (d : Desk) (call : Nat) (question : String) (completion : Completion)
    (now : Moment) :
    Ended call completion (d.resolve call question completion now) ∨
      ∃ (t : Resolution) (d' : Desk), t.completion = completion ∧ d.resolve call question completion now =
        ({ d' with pending := some (call, .search question t) }, [.search call t.request]) := by
  unfold resolve
  dsimp only [atStage]
  rcases Reply.queryOf completion.text question with t | query
  · exact Or.inl (refuse_ended (d.atStage .extracting) call t completion)
  · dsimp only
    let d' := { d with outcome := { d.outcome with query := some query, stage := .compiling } }
    rcases SearchRequest.build (Filters.ofQuery query) now d.rules.lookback d.rules.limit
      with f | request
    · exact Or.inl (refuse_ended d' call (.fault f) completion)
    · dsimp only
      by_cases hs : d.rules.searches = true
      · rw [if_pos hs]
        exact Or.inr ⟨⟨query, Filters.ofQuery query, completion, request⟩, d', rfl, rfl⟩
      · rw [if_neg hs]
        exact Or.inl (conclude_ended d' call question
          ⟨query, Filters.ofQuery query, completion, request⟩ now)

theorem goOn_search {t : Resolution} (h : d.pending = some (call, .search question t))
    (o : Others) :
    d.goOn o = match o.said with
      | .error trouble => d.refuse call (trouble.within searchFailed)
      | .ok () => d.conclude call question t o.saidAt := by
  rw [goOn_some h]
  exact step_searched h o.said o.saidAt

theorem goOn_search_ended {t : Resolution} (h : d.pending = some (call, .search question t))
    (o : Others) : Ended call t.completion (d.goOn o) := by
  rw [goOn_search h]
  rcases o.said with trouble | ⟨⟨⟩⟩
  · exact refuse_ended d call _ t.completion
  · exact conclude_ended d call question t o.saidAt

/-! ## A call from its answer to its end -/

/-- The call goes on with a completion, and then with what the search service says. -/
def settle (d : Desk) (call : Nat) (question : String) (completion : Completion) (now : Moment)
    (o : Others) : Desk × List DeskEffect :=
  let (d, resolved) := d.resolve call question completion now
  let (d, searched) := d.goOn o
  (d, resolved ++ searched)

/-- The requests to the search service among effects. -/
def searches (effects : List DeskEffect) : List (Nat × SearchRequest) :=
  effects.filterMap fun
    | .search call request => some (call, request)
    | _ => none

/-- A call that goes on with a completion ends, once, and asks the search service
    at most once. -/
theorem settle_ended (d : Desk) (call : Nat) (question : String) (completion : Completion)
    (now : Moment) (o : Others) :
    (d.settle call question completion now o).1.pending = none ∧
      ∃ result, endings (d.settle call question completion now o).2 = [(call, result)] ∧
        ∀ t, result = .ok t → t.completion = completion := by
  unfold settle
  rcases resolve_cases d call question completion now with hended | ⟨t, d', ht, heq⟩
  · obtain ⟨hidle, result, htold, hresult⟩ := hended
    dsimp only
    rw [goOn_none hidle, htold]
    exact ⟨hidle, result, rfl, hresult⟩
  · rw [heq]
    obtain ⟨hidle, result, htold, hresult⟩ :=
      goOn_search_ended (d := { d' with pending := some (call, .search question t) }) rfl o
    dsimp only
    rw [htold]
    refine ⟨hidle, result, rfl, ?_⟩
    rw [← ht]
    exact hresult

/-- **A call goes on alike** with one text of either model, to one desk. -/
theorem settle_ofModel (d : Desk) (p : Option (Nat × Pending)) (call : Nat) (question : String)
    (completion : Completion) (now : Moment) (o o' : Others) (hsaid : o'.said = o.said)
    (hsaidAt : o'.saidAt = o.saidAt) (m : ModelIdentity) :
    ({ d with pending := p } : Desk).settle call question { completion with model := m } now o' =
      ((d.settle call question completion now o).1,
        (d.settle call question completion now o).2.map (DeskEffect.ofModel m)) := by
  unfold settle
  rw [resolve_ofModel]
  rcases resolve_cases d call question completion now with hended | ⟨t, d', ht, heq⟩
  · rw [ofModel_of_idle hended.idle]
    dsimp only
    rw [goOn_none hended.idle, goOn_none hended.idle, List.append_nil, List.append_nil]
  · let waiting : Desk := { d' with pending := some (call, .search question t) }
    let other : Desk := { d' with pending := some (call, .search question (t.ofModel m)) }
    have hgoOn : other.goOn o' = ofModel m (waiting.goOn o) := by
      rw [goOn_search (d := other) rfl, goOn_search (d := waiting) rfl, hsaid, hsaidAt]
      rcases o.said with trouble | ⟨⟨⟩⟩
      · exact refuse_ofModel waiting _ call _ m
      · exact conclude_ofModel waiting _ call question t o.saidAt m
    have hended := goOn_search_ended (d := waiting) rfl o
    rw [ofModel_of_idle hended.idle] at hgoOn
    rw [heq]
    dsimp only
    rw [List.map_append]
    show ((other.goOn o').1, [.search call t.request] ++ (other.goOn o').2) =
      ((waiting.goOn o).1, [.search call t.request] ++
        (waiting.goOn o).2.map (DeskEffect.ofModel m))
    rw [hgoOn]

/-! ## A call from its question to its end -/

theorem refuse_eq (d : Desk) (call : Nat) (t : Trouble) :
    ∃ (d' : Desk) (t' : Trouble), d'.pending = none ∧
      d.refuse call t = (d', [.finish call (.error t')]) := by
  unfold refuse
  rcases t.within unexpected with f | f | r | reason <;> exact ⟨_, _, rfl, rfl⟩

/-- What goes to the backend for a question depends on the configuration only by its
    model, if it can be sent. -/
theorem prepare_ready {config : ClientConfig} {adapter : Adapter}
    (h : Gateway.Ready config m adapter) (d : Desk) (question : String) :
    d.prepare question config =
      if Text.allBlank question then (.error (.failure .blankQuestion), d)
      else ((d.prompts.questionPrompt question).1.map fun p => (m, p),
        { d with prompts := (d.prompts.questionPrompt question).2 }) := by
  unfold prepare
  rw [h.valid]

/-- The desk while it looks at a question. -/
def validating (d : Desk) (question : String) : Desk :=
  { d with outcome := { stage := .validating, question := question } }

/-- The desk once the prompt for a question was made. -/
def prompted (d : Desk) (question : String) : Desk :=
  { d.validating question with prompts := (d.prompts.questionPrompt question).2 }

section

variable {config : ClientConfig} {adapter : Adapter} (h : Gateway.Ready config m adapter)
include h

theorem accept_blank (hblank : Text.allBlank question = true) (d : Desk) (call : Nat) :
    d.accept call (.text question) config =
      (d.validating question).refuse call (.failure .blankQuestion) := by
  unfold accept questionText
  dsimp only
  rw [prepare_ready h, if_pos hblank]
  rfl

theorem accept_unprompted (hblank : ¬ Text.allBlank question = true) {t : Trouble}
    (hprompt : (d.prompts.questionPrompt question).1 = .error t) (call : Nat) :
    d.accept call (.text question) config = (d.prompted question).refuse call t := by
  unfold accept questionText
  dsimp only
  rw [prepare_ready h, if_neg hblank]
  dsimp only
  rw [hprompt]
  rfl

theorem accept_prompted (hblank : ¬ Text.allBlank question = true) {prompt : String}
    (hprompt : (d.prompts.questionPrompt question).1 = .ok prompt) {post : Post}
    (hpost : adapter.post (.text prompt) = .ok post) (call : Nat) :
    d.accept call (.text question) config =
      match d.rules.deadline.fault? with
      | some f => ((d.prompted question).atStage .awaitingModel).refuseWaiting call f (.ok post)
      | none => ({ (d.prompted question).atStage .awaitingModel with
          pending := some (call, .model question m adapter) }, [.send call post]) := by
  unfold accept questionText
  dsimp only
  rw [prepare_ready h, if_neg hblank]
  dsimp only
  rw [hprompt]
  dsimp only [Except.map, atStage]
  rw [h.adapts]
  dsimp only
  rw [hpost]
  rcases d.rules.deadline.fault? with _ | f <;> rfl

end

/-- **A question is refused, or its call waits for the model**; which of them it is
    does not depend on the configuration, as long as that is ready. -/
theorem accept_cases (hidle : d.busy = false) (call : Nat) (v : Json) :
    (∃ (d' : Desk) (t : Trouble), d'.pending = none ∧
      ∀ {config : ClientConfig} {m : ModelIdentity} {adapter : Adapter},
        Gateway.Ready config m adapter →
          ∃ posts : List Post, d.accept call v config =
            (d', posts.map (DeskEffect.send call) ++ [.finish call (.error t)])) ∨
    ∃ (d' : Desk) (question : String),
      ∀ {config : ClientConfig} {m : ModelIdentity} {adapter : Adapter},
        Gateway.Ready config m adapter →
          ∃ post : Post, d.accept call v config =
            ({ d' with pending := some (call, .model question m adapter) }, [.send call post]) := by
  rcases hquestion : questionText v with r | question
  · left
    refine ⟨d, .rejected r, by simpa [busy] using hidle, fun _ => ⟨[], ?_⟩⟩
    unfold accept
    rw [hquestion]
    rfl
  have haccept : ∀ config, d.accept call v config = d.accept call (.text question) config := by
    intro config
    unfold accept
    rw [hquestion]
    rfl
  simp only [haccept]
  by_cases hblank : Text.allBlank question = true
  · left
    obtain ⟨d', t, hpending, hrefuse⟩ :=
      refuse_eq (d.validating question) call (.failure .blankQuestion)
    exact ⟨d', t, hpending, fun h => ⟨[], (accept_blank h hblank d call).trans hrefuse⟩⟩
  rcases hprompt : (d.prompts.questionPrompt question).1 with t | prompt
  · left
    obtain ⟨d', t', hpending, hrefuse⟩ := refuse_eq (d.prompted question) call t
    exact ⟨d', t', hpending, fun h =>
      ⟨[], (accept_unprompted h hblank hprompt call).trans hrefuse⟩⟩
  rcases hfault : d.rules.deadline.fault? with _ | f
  · right
    refine ⟨(d.prompted question).atStage .awaitingModel, question, fun h => ?_⟩
    obtain ⟨post, hpost⟩ := h.posts prompt
    refine ⟨post, ?_⟩
    rw [accept_prompted h hblank hprompt hpost, hfault]
  · left
    obtain ⟨d', t, hpending, hrefuse⟩ :=
      refuse_eq ((d.prompted question).atStage .awaitingModel) call (.fault f)
    refine ⟨d', t, hpending, fun h => ?_⟩
    obtain ⟨post, hpost⟩ := h.posts prompt
    refine ⟨[post], ?_⟩
    rw [accept_prompted h hblank hprompt hpost, hfault]
    dsimp only
    unfold refuseWaiting
    rw [hrefuse]
    rfl

theorem serve_of_refusal {config : ClientConfig} {v : Json} {effects : List DeskEffect}
    {d' : Desk} (hidle : d.busy = false) (haccept : d.accept call v config = (d', effects))
    (hpending : d'.pending = none) (o : Others) :
    d.serve call v config o = (d', effects) := by
  unfold serve serveModel
  rw [step_admitted hidle, haccept]
  dsimp only
  rw [goOn_none hpending, goOn_none hpending, List.append_nil, List.append_nil]

theorem serve_of_answer {config : ClientConfig} {adapter : Adapter} {waiting : Desk} {post : Post}
    {v : Json} {o : Others} {answer : Answer} {now : Moment} {completion : Completion}
    (hidle : d.busy = false) (haccept : d.accept call v config = (waiting, [.send call post]))
    (hwaits : waiting.pending = some (call, .model question m adapter))
    (hanswer : o.answer = some (answer, now))
    (hcompletion : Gateway.completionFrom adapter m answer = .ok completion) :
    d.serve call v config o =
      ((waiting.settle call question completion now o).1,
        .send call post :: (waiting.settle call question completion now o).2) := by
  have hevent : o.event call (.model question m adapter) = .answer call answer now := by
    unfold Others.event
    rw [hanswer]
  have hresolve : waiting.goOn o = waiting.resolve call question completion now := by
    rw [goOn_some hwaits, hevent, step_answer hwaits, resume, hcompletion]
  unfold serve serveModel settle
  rw [step_admitted hidle, haccept]
  dsimp only
  rw [hresolve]
  rfl

/-! ## Two backends -/

theorem searches_ofModel (m : ModelIdentity) (effects : List DeskEffect) :
    searches (effects.map (DeskEffect.ofModel m)) = searches effects := by
  unfold searches
  rw [List.filterMap_map]
  congr 1
  funext e
  cases e <;> rfl

theorem endings_ofModel (m : ModelIdentity) (effects : List DeskEffect) :
    endings (effects.map (DeskEffect.ofModel m)) =
      (endings effects).map fun p => (p.1, p.2.map (Resolution.ofModel m)) := by
  unfold endings
  rw [List.filterMap_map, List.map_filterMap]
  congr 1
  funext e
  cases e <;> rfl

/-- What looks at no request to the backend sees the effects without them. -/
theorem filterMap_sends {α : Type} {f : DeskEffect → Option α}
    (hf : ∀ post, f (.send call post) = none) (posts : List Post) (effects : List DeskEffect) :
    (posts.map (DeskEffect.send call) ++ effects).filterMap f = effects.filterMap f := by
  induction posts with
  | nil => rfl
  | cons post posts ih =>
    rw [List.map_cons, List.cons_append, List.filterMap_cons_none (hf post), ih]

/-- Two calls with the same question went alike: they leave one desk, ask the search
    service the same, and end in the same way, but for the model `m'` of the second
    completion. -/
structure Alike (call : Nat) (completion : Completion) (m' : ModelIdentity)
    (one other : Desk × List DeskEffect) : Prop where
  desk : other.1 = one.1
  searched : searches other.2 = searches one.2
  ends : ∃ result, endings one.2 = [(call, result)] ∧
    endings other.2 = [(call, result.map (Resolution.ofModel m'))] ∧
    ∀ t, result = .ok t → t.completion = completion

/-- **Two calls over backends that tell one text go alike.** -/
theorem serve_ready {config config' : ClientConfig} {m m' : ModelIdentity}
    {adapter adapter' : Adapter} (hready : Gateway.Ready config m adapter)
    (hready' : Gateway.Ready config' m' adapter') (hidle : d.busy = false) (call : Nat)
    (v : Json) {o o' : Others} {answer answer' : Answer} {now : Moment} {text : String}
    (hanswer : o.answer = some (answer, now)) (hanswer' : o'.answer = some (answer', now))
    (hsaid : o'.said = o.said) (hsaidAt : o'.saidAt = o.saidAt)
    (hcompletion : Gateway.completionFrom adapter m answer = .ok ⟨text, m⟩)
    (hcompletion' : Gateway.completionFrom adapter' m' answer' = .ok ⟨text, m'⟩) :
    Alike call ⟨text, m⟩ m' (d.serve call v config o) (d.serve call v config' o') := by
  rcases accept_cases hidle call v with ⟨d', t, hpending, haccept⟩ | ⟨d', question, haccept⟩
  · obtain ⟨posts, hone⟩ := haccept hready
    obtain ⟨posts', hother⟩ := haccept hready'
    rw [serve_of_refusal hidle hone hpending, serve_of_refusal hidle hother hpending]
    refine ⟨rfl, ?_, .error t, ?_, ?_, ?_⟩
    · exact (filterMap_sends (fun _ => rfl) posts' _).trans
        (filterMap_sends (fun _ => rfl) posts _).symm
    · exact filterMap_sends (fun _ => rfl) posts _
    · exact filterMap_sends (fun _ => rfl) posts' _
    · intro t ht
      cases ht
  · obtain ⟨post, hone⟩ := haccept hready
    obtain ⟨post', hother⟩ := haccept hready'
    let waiting : Desk := { d' with pending := some (call, .model question m adapter) }
    have hsettle := settle_ofModel waiting (some (call, .model question m' adapter')) call question
      ⟨text, m⟩ now o o' hsaid hsaidAt m'
    obtain ⟨-, result, hends, hresult⟩ := settle_ended waiting call question ⟨text, m⟩ now o
    rw [serve_of_answer hidle hone rfl hanswer hcompletion,
      serve_of_answer hidle hother rfl hanswer' hcompletion', hsettle]
    refine ⟨rfl, searches_ofModel m' _, result, hends, ?_, hresult⟩
    show endings ((waiting.settle call question ⟨text, m⟩ now o).2.map (DeskEffect.ofModel m')) = _
    rw [endings_ofModel, hends]
    rfl

/-- **A call goes alike over either backend**: with a hosted model and a credential
    of ASCII, and with a local one at a full address, if both answer in time with a
    success that carries one text.  A busy desk turns both calls away alike. -/
theorem serve_backends {d : Desk} (call : Nat) (v : Json)
    {hosted onPremises : ClientConfig} {m m' : ModelIdentity}
    (hvalid : Gateway.validate hosted = .ok m) (hm : m.isHosted = true)
    (hascii : ∀ key, hosted.apiKey = some key → ∀ c ∈ key.toList, c.toNat < 128)
    (hvalid' : Gateway.validate onPremises = .ok m') (hm' : m'.isHosted = false)
    (haddress : ∀ adapter, Gateway.adapterFor onPremises m' = .ok adapter →
      adapter.addressFault? = none)
    {text : String} {status status' : Int} {body body' : ByteArray}
    {members members' : List (String × Json)} (hstatus : isSuccess status = true)
    (hstatus' : isSuccess status' = true) (hread : Json.readBytes? body = some (.object members))
    (hcarries : Hosted.Carries (.object members) text)
    (hread' : Json.readBytes? body' = some (.object members'))
    (hcarries' : Local.Carries (.object members') text) (now : Moment)
    (said : Except Trouble Unit) (saidAt : Moment) :
    (d.busy = true → d.step (.ask call v hosted) = d.step (.ask call v onPremises)) ∧
    (d.busy = false → Alike call ⟨text, m⟩ m'
      (d.serve call v hosted ⟨some (.response status body, now), said, saidAt⟩)
      (d.serve call v onPremises ⟨some (.response status' body', now), said, saidAt⟩)) := by
  refine ⟨fun hbusy => ?_, fun hidle => ?_⟩
  · rw [step_ask_of_pending hbusy, step_ask_of_pending hbusy]
  · obtain ⟨adapter, hready, hfull, hcarried⟩ := Gateway.ready_hosted hvalid hm hascii
    obtain ⟨adapter', hready', hfull', hcarried'⟩ := Gateway.ready_local hvalid' hm' haddress
    have hcompletion : Gateway.completionFrom adapter m (.response status body) = .ok ⟨text, m⟩ :=
      Gateway.completionFrom_eq_ok_iff.2
        ⟨hfull, hstatus, rfl, members, hread, (hcarried _ _).2 hcarries⟩
    have hcompletion' : Gateway.completionFrom adapter' m' (.response status' body') =
        .ok ⟨text, m'⟩ :=
      Gateway.completionFrom_eq_ok_iff.2
        ⟨hfull', hstatus', rfl, members', hread', (hcarried' _ _).2 hcarries'⟩
    exact serve_ready hready hready' hidle call v rfl rfl rfl rfl hcompletion hcompletion'

/-- What a hosted model answers, with the text as the content of the only choice. -/
def hostedReply (text : String) : List (String × Json) :=
  [("choices", .array [.object [("message", .object [("content", .text text)])]])]

/-- What a local model answers. -/
def localReply (text : String) : List (String × Json) :=
  [("response", .text text)]

theorem readBytes?_hostedReply (text : String) :
    Json.readBytes? (Json.object (hostedReply text)).render.toUTF8 =
      some (.object (hostedReply text)) :=
  Json.readBytes?_render (by simp [hostedReply, Json.isPlain, Json.allPlain, Json.membersPlain,
    Mapping.keys])

theorem readBytes?_localReply (text : String) :
    Json.readBytes? (Json.object (localReply text)).render.toUTF8 =
      some (.object (localReply text)) :=
  Json.readBytes?_render (by simp [localReply, Json.isPlain, Json.membersPlain, Mapping.keys])

theorem carries_hostedReply (text : String) : Hosted.Carries (.object (hostedReply text)) text :=
  .content rfl rfl rfl

theorem carries_localReply (text : String) : Local.Carries (.object (localReply text)) text :=
  .response rfl

/-- What others do on the sample: the body is the answer, and the search goes well. -/
def answered (members : List (String × Json)) : Others where
  answer := some (.response 200 (Json.object members).render.toUTF8, ⟨1709294400123456⟩)
  said := .ok ()
  saidAt := ⟨0⟩

theorem serve_backends_sample :
    Alike 0 ⟨"\x7b\x7d", .gpt4⟩ .ollama
      (sample.serve 0 (.text "slow requests") Gateway.hostedConfig
        (answered (hostedReply "\x7b\x7d")))
      (sample.serve 0 (.text "slow requests") sampleConfig
        (answered (localReply "\x7b\x7d"))) := by
  have haddress : ∀ adapter, Gateway.adapterFor sampleConfig .ollama = .ok adapter →
      adapter.addressFault? = none := by
    rintro _ ⟨⟩
    decide +kernel
  exact (serve_backends 0 (.text "slow requests") (by rfl) rfl Gateway.ascii_hostedConfig
    (by rfl) rfl haddress rfl rfl (readBytes?_hostedReply _) (carries_hostedReply _)
    (readBytes?_localReply _) (carries_localReply _) _ (.ok ()) ⟨0⟩).2 rfl

/-- **At an address that is no full one the local call fails** although its response
    carries the same text. -/
theorem serve_relativeAddress :
    (sample.serve 0 (.text "slow requests") Gateway.hostedConfig
      (answered (hostedReply "\x7b\x7d"))).1.outcome.errorMessage = none ∧
    (sample.serve 0 (.text "slow requests") { sampleConfig with baseUrl := some "localhost" }
      (answered (localReply "\x7b\x7d"))).1.outcome.errorMessage =
        some "Unexpected backend failure: unknown url type: '/localhost/api/generate'" := by
  decide +kernel

end Desk

end SpanQuest
