/-
  What can be told of a credential.

  Two calls to a hosted model that differ in their credentials only go alike,
  but for the header of the post, as long as both credentials are ASCII.  A
  header that is not ASCII fails the call before anything is posted, and the
  message names its first character that is not ASCII and its place.  That is
  all that can be told of a credential (`complaint?`), and it can be told.

  * `Agrees`: nothing but a credential tells two desks apart;
  * `step_agrees`, `run_agrees`: no event but a new call looks at a credential;
  * `run_credential`: two calls cannot be told apart exactly if there is the same
    to say of their credentials;
  * `run_accentedKey`: two that can.
-/
import SpanQuest.Proofs.Desk.Backends
import SpanQuest.Proofs.Desk.Frame
import SpanQuest.Proofs.Desk.Posting

namespace SpanQuest

open Backend

/-! ## Without credentials -/

namespace Backend

/-- The adapter without its credential. -/
def Adapter.concealed (a : Adapter) : Adapter where
  protocol := match a.protocol with
    | .hosted _ maxTokens => .hosted .null maxTokens
    | .ollama => .ollama
  baseUrl := a.baseUrl
  model := a.model
  temperature := a.temperature

theorem Adapter.receive_concealed (a : Adapter) (token : Token) (answer : Answer) :
    a.concealed.receive token answer = a.receive token answer := by
  obtain ⟨_ | _, baseUrl, model, temperature⟩ := a <;> cases answer <;> rfl

/-- The post without its credential. -/
def Post.concealed (post : Post) : Post :=
  { post with authorization := none }

end Backend

theorem Gateway.completionFrom_concealed (adapter : Adapter) (m : ModelIdentity)
    (answer : Answer) :
    completionFrom adapter.concealed m answer = completionFrom adapter m answer := by
  unfold completionFrom
  rw [Adapter.receive_concealed]

/-- The abandoned exchange without its credential. -/
def Abandoned.concealed (a : Abandoned) : Abandoned :=
  { a with adapter := a.adapter.concealed }

/-- The effect without a credential. -/
def DeskEffect.concealed : DeskEffect → DeskEffect
  | .send call post => .send call post.concealed
  | .search call request => .search call request
  | .finish call result => .finish call result
  | .discard call result => .discard call result

theorem endings_concealed (effects : List DeskEffect) :
    endings (effects.map DeskEffect.concealed) = endings effects := by
  unfold endings
  rw [List.filterMap_map]
  congr 1
  funext e
  cases e <;> rfl

theorem posts_concealed (effects : List DeskEffect) :
    posts (effects.map DeskEffect.concealed) = (posts effects).map Post.concealed := by
  unfold posts
  rw [List.filterMap_map, List.map_filterMap]
  congr 1
  funext e
  cases e <;> rfl

namespace Desk

variable {d d' : Desk} {call : Nat} {question : String}

/-! ## Desks that agree -/

/-- What one desk waits for and another: the same, with adapters that differ in
    their credentials only. -/
inductive WaitAlike : Option (Nat × Pending) → Option (Nat × Pending) → Prop where
  | idle : WaitAlike none none
  | model (call : Nat) (question : String) (m : ModelIdentity) {adapter adapter' : Adapter}
      (ha : adapter'.concealed = adapter.concealed) :
      WaitAlike (some (call, .model question m adapter)) (some (call, .model question m adapter'))
  | search (call : Nat) (question : String) (t : Resolution) :
      WaitAlike (some (call, .search question t)) (some (call, .search question t))

theorem WaitAlike.refl (p : Option (Nat × Pending)) : WaitAlike p p := by
  rcases p with _ | ⟨call, ⟨question, m, adapter⟩ | ⟨question, t⟩⟩
  · exact .idle
  · exact .model call question m rfl
  · exact .search call question t

theorem WaitAlike.symm {p p' : Option (Nat × Pending)} (h : WaitAlike p p') : WaitAlike p' p := by
  cases h with
  | idle => exact .idle
  | model call question m ha => exact .model call question m ha.symm
  | search call question t => exact .search call question t

/-- **Nothing but credentials tells the desks apart.** -/
structure Agrees (d d' : Desk) : Prop where
  carries : ∃ p left, d' = d.carrying p left
  waits : WaitAlike d.pending d'.pending
  abandoned : d'.abandoned.map Abandoned.concealed = d.abandoned.map Abandoned.concealed

/-- The desks agree after a step, and so do the effects. -/
def AgreeAfter (r r' : Desk × List DeskEffect) : Prop :=
  Agrees r.1 r'.1 ∧ r'.2 = r.2

namespace Agrees

theorem refl (d : Desk) : Agrees d d :=
  ⟨⟨d.pending, d.abandoned, rfl⟩, .refl _, rfl⟩

theorem symm (h : Agrees d d') : Agrees d' d := by
  refine ⟨?_, h.waits.symm, h.abandoned.symm⟩
  obtain ⟨p, left, rfl⟩ := h.carries
  exact ⟨d.pending, d.abandoned, rfl⟩

theorem rules (h : Agrees d d') : d'.rules = d.rules := by
  obtain ⟨p, left, rfl⟩ := h.carries
  rfl

theorem pending_model (h : Agrees d d') {m : ModelIdentity} {adapter : Adapter}
    (hp : d.pending = some (call, .model question m adapter)) :
    ∃ adapter', d'.pending = some (call, .model question m adapter') ∧
      adapter'.concealed = adapter.concealed := by
  have hwaits := h.waits
  rw [hp] at hwaits
  generalize d'.pending = p' at hwaits ⊢
  cases hwaits with
  | model _ _ _ ha => exact ⟨_, rfl, ha⟩

theorem pending_search (h : Agrees d d') {t : Resolution}
    (hp : d.pending = some (call, .search question t)) :
    d'.pending = some (call, .search question t) := by
  have hwaits := h.waits
  rw [hp] at hwaits
  generalize d'.pending = p' at hwaits ⊢
  cases hwaits
  rfl

theorem awaits {e : DeskEvent} (h : Agrees d d') (hw : d.Awaits e) : d'.Awaits e := by
  cases hw with
  | answer call question m adapter answer now hp =>
    obtain ⟨adapter', hp', -⟩ := h.pending_model hp
    exact .answer call question m adapter' answer now hp'
  | expire call question m adapter seconds hp hs =>
    obtain ⟨adapter', hp', -⟩ := h.pending_model hp
    exact .expire call question m adapter' seconds hp' (h.rules ▸ hs)
  | withdraw call p hp =>
    cases p with
    | model question m adapter =>
      obtain ⟨adapter', hp', -⟩ := h.pending_model hp
      exact .withdraw call _ hp'
    | search question t => exact .withdraw call _ (h.pending_search hp)
  | searched call question t said now hp =>
    exact .searched call question t said now (h.pending_search hp)

theorem isLate (h : Agrees d d') (e : DeskEvent) : d'.isLate e = d.isLate e := by
  have hwaits := h.waits
  unfold Desk.isLate
  generalize d.pending = p, d'.pending = p' at hwaits
  cases hwaits <;> rfl

/-- An operation that leaves the abandoned exchanges alone leaves the desks agreed. -/
theorem leaving {left : List Abandoned} {r : Desk × List DeskEffect}
    (hr : left.map Abandoned.concealed = r.1.abandoned.map Abandoned.concealed) :
    AgreeAfter r (Desk.leaving left r) :=
  ⟨⟨⟨r.1.pending, left, rfl⟩, .refl _, hr⟩, rfl⟩

theorem refuse (h : Agrees d d') (call : Nat) (t : Trouble) :
    AgreeAfter (d.refuse call t) (d'.refuse call t) := by
  obtain ⟨p, left, rfl⟩ := h.carries
  rw [refuse_carrying]
  refine leaving ?_
  rw [abandoned_refuse]
  exact h.abandoned

theorem conclude (h : Agrees d d') (call : Nat) (question : String) (t : Resolution)
    (now : Moment) :
    AgreeAfter (d.conclude call question t now) (d'.conclude call question t now) := by
  obtain ⟨p, left, rfl⟩ := h.carries
  rw [conclude_carrying]
  refine leaving ?_
  rw [abandoned_conclude]
  exact h.abandoned

/-- **An answer is taken alike** over adapters that differ in their credentials. -/
theorem resume (h : Agrees d d') {adapter adapter' : Adapter}
    (ha : adapter'.concealed = adapter.concealed) (call : Nat) (question : String)
    (m : ModelIdentity) (answer : Answer) (now : Moment) :
    AgreeAfter (d.resume call question m adapter answer now)
      (d'.resume call question m adapter' answer now) := by
  have hanswer : Gateway.completionFrom adapter' m answer =
      Gateway.completionFrom adapter m answer := by
    rw [← Gateway.completionFrom_concealed adapter', ha, Gateway.completionFrom_concealed]
  have hadapter : d'.resume call question m adapter' answer now =
      d'.resume call question m adapter answer now := by
    unfold Desk.resume
    rw [hanswer]
  rw [hadapter]
  obtain ⟨p, left, rfl⟩ := h.carries
  rw [resume_carrying]
  refine leaving ?_
  rw [abandoned_resume]
  exact h.abandoned

theorem abandon (h : Agrees d d') {adapter adapter' : Adapter}
    (ha : adapter'.concealed = adapter.concealed) (call : Nat) (reason : Json) :
    Agrees (d.abandon call adapter reason) (d'.abandon call adapter' reason) := by
  refine ⟨?_, h.waits, ?_⟩
  · obtain ⟨p, left, rfl⟩ := h.carries
    exact ⟨p, _, rfl⟩
  · unfold Desk.abandon
    rw [List.map_cons, List.map_cons, h.abandoned]
    simp only [Abandoned.concealed, ha]

theorem answerLate (h : Agrees d d') (call : Nat) (answer : Answer) :
    AgreeAfter (d.answerLate call answer) (d'.answerLate call answer) := by
  have hfind := congrArg (List.find? fun a => a.call == call) h.abandoned
  have hfilter := congrArg (List.filter fun a => a.call != call) h.abandoned
  have hcall : (fun a : Abandoned => a.call == call) ∘ Abandoned.concealed =
    fun a => a.call == call := rfl
  rw [List.find?_map, List.find?_map, hcall] at hfind
  rw [List.filter_map, List.filter_map] at hfilter
  unfold Desk.answerLate
  rcases hfirst : d.abandoned.find? (fun a => a.call == call) with _ | a
  all_goals rcases hfirst' : d'.abandoned.find? (fun a => a.call == call) with _ | a'
  all_goals rw [hfirst, hfirst'] at hfind
  · rw [hfirst, hfirst']
    exact ⟨h, rfl⟩
  · cases hfind
  · cases hfind
  · have ha : a'.concealed = a.concealed := Option.some.inj hfind
    have hanswer : a'.adapter.receive a'.token answer = a.adapter.receive a.token answer := by
      obtain ⟨-, hadapter, htoken⟩ := Abandoned.mk.inj ha
      rw [← Adapter.receive_concealed, hadapter, htoken, Adapter.receive_concealed]
    rw [hfirst, hfirst']
    dsimp only
    rw [hanswer]
    refine ⟨⟨?_, h.waits, hfilter⟩, rfl⟩
    obtain ⟨p, left, rfl⟩ := h.carries
    exact ⟨p, _, rfl⟩

end Agrees

/-! ## Steps and runs -/

theorem awaited_agrees (h : Agrees d d') {e : DeskEvent} (hw : d.Awaits e) :
    AgreeAfter (d.step e) (d'.step e) := by
  cases hw with
  | answer call question m adapter answer now hp =>
    obtain ⟨adapter', hp', ha⟩ := h.pending_model hp
    rw [step_answer hp, step_answer hp']
    exact h.resume ha call question m answer now
  | expire call question m adapter seconds hp hs =>
    obtain ⟨adapter', hp', ha⟩ := h.pending_model hp
    rw [step_expire hp hs, step_expire hp' (h.rules ▸ hs)]
    exact (h.abandon ha call _).refuse call _
  | withdraw call p hp =>
    obtain ⟨q, left, hcarries⟩ := h.carries
    cases p with
    | model question m adapter =>
      obtain ⟨adapter', hp', ha⟩ := h.pending_model hp
      rw [step_withdraw hp, step_withdraw hp']
      refine ⟨⟨⟨none, d'.abandonedBy call (.model question m adapter'), ?_⟩, .idle,
        (h.abandon ha call withdrawnReason).abandoned⟩, rfl⟩
      subst hcarries
      rfl
    | search question t =>
      rw [step_withdraw hp, step_withdraw (h.pending_search hp)]
      refine ⟨⟨⟨none, d'.abandoned, ?_⟩, .idle, h.abandoned⟩, rfl⟩
      subst hcarries
      rfl
  | searched call question t said now hp =>
    rw [step_searched hp, step_searched (h.pending_search hp)]
    rcases said with trouble | ⟨⟨⟩⟩
    · exact h.refuse call _
    · exact h.conclude call question t now

/-- **No event but a new call tells the desks apart.** -/
theorem step_agrees (h : Agrees d d') {e : DeskEvent} (he : e.isAsk = false) :
    AgreeAfter (d.step e) (d'.step e) := by
  by_cases hw : d.Awaits e
  · exact awaited_agrees h hw
  cases hlate : d.isLate e with
  | false =>
    rw [step_passes he hlate hw, step_passes he ((h.isLate e).trans hlate) fun hw' =>
      hw (h.symm.awaits hw')]
    exact ⟨h, rfl⟩
  | true =>
    cases e with
    | answer call answer now =>
      rw [step_answer_late hlate, step_answer_late ((h.isLate _).trans hlate)]
      exact h.answerLate call answer
    | ask | expire | withdraw | searched => cases hlate

theorem run_agrees (h : Agrees d d') {es : List DeskEvent} (hes : ∀ e ∈ es, e.isAsk = false) :
    AgreeAfter (d.run es) (d'.run es) := by
  induction es generalizing d d' with
  | nil => exact ⟨h, rfl⟩
  | cons e es ih =>
    obtain ⟨hdesk, heffects⟩ := step_agrees h (hes e (List.mem_cons_self ..))
    obtain ⟨hlast, hrest⟩ := ih hdesk fun x hx => hes x (List.mem_cons_of_mem _ hx)
    rw [run_cons, run_cons]
    exact ⟨hlast, by rw [heffects, hrest]⟩

end Desk

/-! ## Two credentials -/

namespace Backend

/-- What there is to say of a credential: what is wrong with its header. -/
def Hosted.complaint? (key : String) : Option String :=
  (headerFault? (bearer (.text key))).map Fault.message

/-- The adapter of a hosted model, with a credential. -/
def Adapter.ofKey (m : ModelIdentity) (key : String) : Adapter :=
  .hosted (.text key) (.text m.hostedName) ClientConfig.hostedUrl defaultTemperature
    (.int Hosted.defaultMaxTokens)

/-- What is posted with a credential. -/
def Post.ofKey (m : ModelIdentity) (prompt key : String) : Post where
  url := "https://api.openai.com/v1/chat/completions"
  authorization := some (Hosted.bearer (.text key))
  body := (Adapter.ofKey m key).body (.text prompt)

theorem Post.concealed_ofKey (m : ModelIdentity) (prompt key key' : String) :
    (ofKey m prompt key').concealed = (ofKey m prompt key).concealed := rfl

/-- **A prompt goes out exactly if the header of the credential can be sent.** -/
theorem Adapter.post_ofKey (m : ModelIdentity) (prompt key : String) :
    (ofKey m key).post (.text prompt) =
      match Hosted.headerFault? (Hosted.bearer (.text key)) with
      | some f => .error f
      | none => .ok (.ofKey m prompt key) := by
  obtain ⟨address, hread, hplace, hnone⟩ := read_hostedEndpoint
  have hfinite : ((ofKey m key).body (.text prompt)).isFinite = true :=
    Gateway.isFinite_body_hosted key ClientConfig.hostedUrl m prompt
  have hendpoint : Address.read (ofKey m key).endpoint = .ok address := hread
  have hcredential : (ofKey m key).credential = some (Hosted.bearer (.text key)) := rfl
  unfold post
  rw [hendpoint, hcredential]
  dsimp only [Option.bind_some]
  rcases Hosted.headerFault? (Hosted.bearer (.text key)) with _ | f
  · simp only [hfinite, if_true, hplace, hnone, Option.none_or]
    rfl
  · rfl

end Backend

/-- The configuration with a credential. -/
def ClientConfig.withKey (config : ClientConfig) (key : String) : ClientConfig :=
  { config with apiKey := some key }

namespace Desk

variable {d : Desk} {call : Nat} {question prompt key key' : String} {config : ClientConfig}
  {m : ModelIdentity}

/-- The question is put to the model with a prompt. -/
structure Prompted (d : Desk) (question prompt : String) : Prop where
  idle : d.busy = false
  ink : Text.allBlank question = false
  made : (d.prompts.questionPrompt question).1 = .ok prompt

section

variable (hm : config.model = .known m) (hhosted : m.isHosted = true)
include hm

theorem validate_withKey (hink : Text.hasInk key = true) :
    Gateway.validate (config.withKey key) = .ok m := by
  have hcredential : (config.withKey key).hasCredential = true := hink
  have hmodel : (config.withKey key).model = .known m := hm
  unfold Gateway.validate
  rw [hmodel]
  dsimp only
  rw [hcredential, Bool.not_true, Bool.and_false, if_neg Bool.false_ne_true]

/-- **A question that is not put to the model** is answered whatever the credential is. -/
theorem step_unprompted (hink : Text.hasInk key = true) (hink' : Text.hasInk key' = true)
    (h : ∀ prompt, ¬ Prompted d question prompt) :
    d.step (.ask call (.text question) (config.withKey key')) =
      d.step (.ask call (.text question) (config.withKey key)) := by
  by_cases hbusy : d.busy = true
  · rw [step_ask_of_pending hbusy, step_ask_of_pending hbusy]
  have hidle : d.busy = false := by simpa using hbusy
  rw [step_admitted hidle, step_admitted hidle]
  unfold accept questionText prepare
  dsimp only
  rw [validate_withKey hm hink, validate_withKey hm hink']
  by_cases hblank : Text.allBlank question = true
  · rw [if_pos hblank]
  rw [if_neg hblank]
  dsimp only
  rcases hprompt : (d.prompts.questionPrompt question).1 with t | prompt
  · rfl
  · exact absurd ⟨hidle, by simpa using hblank, hprompt⟩ (h prompt)

include hhosted

theorem step_prompted (hink : Text.hasInk key = true) (h : Prompted d question prompt) :
    d.step (.ask call (.text question) (config.withKey key)) =
      match d.rules.deadline.fault?, (Adapter.ofKey m key).post (.text prompt) with
      | some f, post => ((d.prompted question).atStage .awaitingModel).refuseWaiting call f post
      | none, .error f => ((d.prompted question).atStage .awaitingModel).refuse call (.fault f)
      | none, .ok post =>
        ({ (d.prompted question).atStage .awaitingModel with
            pending := some (call, .model question m (Adapter.ofKey m key)) }, [.send call post]) := by
  have hadapter : Gateway.adapterFor (config.withKey key) m = .ok (Adapter.ofKey m key) := by
    have hendpoint : (config.withKey key).endpointFor m = ClientConfig.hostedUrl := if_pos hhosted
    unfold Gateway.adapterFor
    rw [if_pos hhosted, hendpoint]
    rfl
  rw [step_admitted h.idle]
  unfold accept questionText prepare
  dsimp only
  rw [validate_withKey hm hink, if_neg (by simp [h.ink])]
  dsimp only
  rw [h.made]
  dsimp only [Except.map, atStage]
  rw [hadapter]
  rfl

end

/-! ## Two calls -/

/-- What two calls did is the same, but for credentials. -/
structure Conceals (r r' : Desk × List DeskEffect) : Prop where
  desk : Agrees r.1 r'.1
  effects : r'.2.map DeskEffect.concealed = r.2.map DeskEffect.concealed

/-- **Two runs cannot be told apart** by how calls end, by the outcome, by what is
    stored and by how much is posted. -/
structure Indistinct (r r' : Desk × List DeskEffect) : Prop where
  ends : endings r'.2 = endings r.2
  outcome : r'.1.outcome = r.1.outcome
  shelf : r'.1.shelf = r.1.shelf
  posted : (posts r'.2).length = (posts r.2).length

theorem Conceals.refl (r : Desk × List DeskEffect) : Conceals r r :=
  ⟨.refl _, rfl⟩

theorem Conceals.indistinct {r r' : Desk × List DeskEffect} (h : Conceals r r') :
    Indistinct r r' := by
  obtain ⟨p, left, hdesk⟩ := h.desk.carries
  refine ⟨?_, by rw [hdesk]; rfl, by rw [hdesk]; rfl, ?_⟩
  · rw [← endings_concealed, h.effects, endings_concealed]
  · have hposts := congrArg posts h.effects
    rw [posts_concealed, posts_concealed] at hposts
    simpa using congrArg List.length hposts

theorem Conceals.run {e e' : DeskEvent} (h : Conceals (d.step e) (d.step e'))
    {es : List DeskEvent} (hes : ∀ x ∈ es, x.isAsk = false) :
    Conceals (d.run (e :: es)) (d.run (e' :: es)) := by
  obtain ⟨hdesk, heffects⟩ := run_agrees h.desk hes
  rw [run_cons, run_cons]
  refine ⟨hdesk, ?_⟩
  rw [List.map_append, List.map_append, h.effects, heffects]

/-- There is the same to say of both credentials, if the question is put to the
    model: whether they can be sent, and what is wrong with them if somebody waits
    for the answer. -/
def SameSaid (d : Desk) (question key key' : String) : Prop :=
  (∃ prompt, Prompted d question prompt) →
    (Hosted.complaint? key').isSome = (Hosted.complaint? key).isSome ∧
      (d.rules.deadline.fault? = none → Hosted.complaint? key' = Hosted.complaint? key)

/-- What a fault with this message is reported as. -/
def unforeseen (message : String) : Failure :=
  .protocol s!"{unexpected}: {message}" .null .null

theorem unforeseen_injective {message message' : String}
    (h : unforeseen message' = unforeseen message) : message' = message := by
  have htexts := congrArg String.toList (Failure.protocol.inj h).1
  simp only [String.toList_append] at htexts
  exact String.toList_inj.1 (List.append_cancel_left htexts)

theorem refuse_fault (d : Desk) (call : Nat) (f : Fault) :
    d.refuse call (.fault f) =
      ({ d with outcome := d.outcome.fail (unforeseen f.message), pending := none },
        [.finish call (.error (.failure (unforeseen f.message)))]) := rfl

/-- A call for which nobody can wait fails alike, whatever is posted for it. -/
theorem refuseWaiting_conceals (d : Desk) (call : Nat) (f : Fault) {post post' : Except Fault Post}
    (h : post'.toOption.map Post.concealed = post.toOption.map Post.concealed) :
    Conceals (d.refuseWaiting call f post) (d.refuseWaiting call f post') := by
  unfold refuseWaiting
  refine ⟨.refl _, ?_⟩
  dsimp only
  rw [List.map_append, List.map_append]
  congr 1
  rcases post with _ | post
  all_goals rcases post' with _ | post'
  · rfl
  · cases h
  · cases h
  · exact congrArg (fun p => [DeskEffect.send call p]) (Option.some.inj h)

/-- **Calls with credentials of which there is the same to say begin alike.** -/
theorem step_conceals (hm : config.model = .known m) (hhosted : m.isHosted = true)
    (hink : Text.hasInk key = true) (hink' : Text.hasInk key' = true)
    (hsaid : SameSaid d question key key') :
    Conceals (d.step (.ask call (.text question) (config.withKey key)))
      (d.step (.ask call (.text question) (config.withKey key'))) := by
  by_cases hprompted : ∃ prompt, Prompted d question prompt
  · obtain ⟨hsent, hsaid⟩ := hsaid hprompted
    obtain ⟨prompt, hprompted⟩ := hprompted
    rw [step_prompted hm hhosted hink hprompted, step_prompted hm hhosted hink' hprompted,
      Adapter.post_ofKey, Adapter.post_ofKey]
    unfold Hosted.complaint? at hsent hsaid
    -- of the two headers both can be sent, or neither
    generalize Hosted.headerFault? (Hosted.bearer (.text key)) = fault at hsent hsaid ⊢
    generalize Hosted.headerFault? (Hosted.bearer (.text key')) = fault' at hsent hsaid ⊢
    rcases fault with _ | f
    all_goals rcases fault' with _ | f'
    · have hpost := Post.concealed_ofKey m prompt key key'
      rcases d.rules.deadline.fault? with _ | g
      · refine ⟨⟨⟨_, d.abandoned, rfl⟩, .model call question m rfl, rfl⟩, ?_⟩
        exact congrArg (fun p => [DeskEffect.send call p]) hpost
      · exact refuseWaiting_conceals _ call g (congrArg some hpost)
    · cases hsent
    · cases hsent
    · rcases hdeadline : d.rules.deadline.fault? with _ | g
      · have hmessage : f'.message = f.message := Option.some.inj (hsaid hdeadline)
        dsimp only
        rw [refuse_fault, refuse_fault, hmessage]
        exact .refl _
      · exact refuseWaiting_conceals _ call g rfl
  · rw [step_unprompted hm hink hink' fun prompt h => hprompted ⟨prompt, h⟩]
    exact .refl _

/-! ## What can be told -/

theorem posts_step_prompted (hm : config.model = .known m) (hhosted : m.isHosted = true)
    (hink : Text.hasInk key = true) (h : Prompted d question prompt) :
    posts (d.step (.ask call (.text question) (config.withKey key))).2 =
      if (Hosted.complaint? key).isSome then [] else [.ofKey m prompt key] := by
  rw [step_prompted hm hhosted hink h, Adapter.post_ofKey]
  unfold Hosted.complaint?
  rcases Hosted.headerFault? (Hosted.bearer (.text key)) with _ | f
  all_goals rcases d.rules.deadline.fault? with _ | g
  · rfl
  · exact posts_refuseWaiting _ call g _
  · exact posts_refuse _ call _
  · exact posts_refuseWaiting _ call g _

theorem endings_step_prompted (hm : config.model = .known m) (hhosted : m.isHosted = true)
    (hink : Text.hasInk key = true) (h : Prompted d question prompt)
    (hdeadline : d.rules.deadline.fault? = none) {complaint : String}
    (hcomplaint : Hosted.complaint? key = some complaint) :
    endings (d.step (.ask call (.text question) (config.withKey key))).2 =
      [(call, .error (.failure (unforeseen complaint)))] := by
  rw [step_prompted hm hhosted hink h, Adapter.post_ofKey, hdeadline]
  unfold Hosted.complaint? at hcomplaint
  rcases hfault : Hosted.headerFault? (Hosted.bearer (.text key)) with _ | f
  · rw [hfault] at hcomplaint
    cases hcomplaint
  · rw [hfault] at hcomplaint
    obtain rfl : f.message = complaint := Option.some.inj hcomplaint
    rfl

/-- **Runs that cannot be told apart have the same to say of their credentials.** -/
theorem sameSaid_of_indistinct (hm : config.model = .known m) (hhosted : m.isHosted = true)
    (hink : Text.hasInk key = true) (hink' : Text.hasInk key' = true) {es : List DeskEvent}
    (hes : ∀ e ∈ es, e.isAsk = false)
    (h : Indistinct (d.run (.ask call (.text question) (config.withKey key) :: es))
      (d.run (.ask call (.text question) (config.withKey key') :: es))) :
    SameSaid d question key key' := by
  rintro ⟨prompt, hprompted⟩
  have hposted := h.posted
  rw [run_cons, run_cons] at hposted
  simp only [posts_append, posts_run_of_not_ask hes, List.append_nil,
    posts_step_prompted hm hhosted hink hprompted,
    posts_step_prompted hm hhosted hink' hprompted] at hposted
  have hsent : (Hosted.complaint? key').isSome = (Hosted.complaint? key).isSome := by
    cases hone : (Hosted.complaint? key).isSome
    all_goals cases hother : (Hosted.complaint? key').isSome
    all_goals simp [hone, hother] at hposted ⊢
  refine ⟨hsent, fun hdeadline => ?_⟩
  rcases hone : Hosted.complaint? key with _ | complaint
  · rw [hone] at hsent
    simpa using hsent
  · obtain ⟨complaint', hother⟩ : ∃ complaint', Hosted.complaint? key' = some complaint' :=
      Option.isSome_iff_exists.1 (by rw [hsent, hone]; rfl)
    rw [hother]
    have hends := h.ends
    rw [run_cons, run_cons] at hends
    simp only [endings_append, endings_step_prompted hm hhosted hink hprompted hdeadline hone,
      endings_step_prompted hm hhosted hink' hprompted hdeadline hother] at hends
    have hfailure := (List.cons.inj hends).1
    simp only [Prod.mk.injEq, Except.error.injEq, Trouble.failure.injEq, true_and] at hfailure
    rw [unforeseen_injective hfailure]

/-- **What can be told of a credential**, in every run of every desk with a call to a
    hosted model.  The runs with two credentials cannot be told apart exactly if
    there is the same to say of both, and then nothing but the credentials is
    different. -/
theorem run_credential (d : Desk) (call : Nat) (question : String) {config : ClientConfig}
    {m : ModelIdentity} (hm : config.model = .known m) (hhosted : m.isHosted = true)
    {key key' : String} (hink : Text.hasInk key = true) (hink' : Text.hasInk key' = true)
    {es : List DeskEvent} (hes : ∀ e ∈ es, e.isAsk = false) :
    (Indistinct (d.run (.ask call (.text question) (config.withKey key) :: es))
        (d.run (.ask call (.text question) (config.withKey key') :: es)) ↔
      SameSaid d question key key') ∧
    (SameSaid d question key key' →
      Conceals (d.run (.ask call (.text question) (config.withKey key) :: es))
        (d.run (.ask call (.text question) (config.withKey key') :: es))) := by
  have hconceals (hsaid : SameSaid d question key key') :
      Conceals (d.run (.ask call (.text question) (config.withKey key) :: es))
        (d.run (.ask call (.text question) (config.withKey key') :: es)) :=
    (step_conceals hm hhosted hink hink' hsaid).run hes
  refine ⟨⟨sameSaid_of_indistinct hm hhosted hink hink' hes, fun hsaid => ?_⟩, hconceals⟩
  exact (hconceals hsaid).indistinct

/-- Two credentials of ASCII cannot be told apart. -/
theorem run_credential_ascii :
    (Text.hasInk "sk-one" = true ∧ Text.hasInk "sk-other" = true ∧
      ∀ e ∈ [DeskEvent.expire 0], e.isAsk = false) ∧
    Conceals
      (sample.run [.ask 0 (.text "slow requests") (Gateway.hostedConfig.withKey "sk-one"), .expire 0])
      (sample.run
        [.ask 0 (.text "slow requests") (Gateway.hostedConfig.withKey "sk-other"), .expire 0]) := by
  have hink : Text.hasInk "sk-one" = true := by decide
  have hink' : Text.hasInk "sk-other" = true := by decide
  have hes : ∀ e ∈ [DeskEvent.expire 0], e.isAsk = false := by simp [DeskEvent.isAsk]
  have hnone : Hosted.complaint? "sk-one" = none := by decide
  have hnone' : Hosted.complaint? "sk-other" = none := by decide
  refine ⟨⟨hink, hink', hes⟩, ?_⟩
  refine (run_credential sample 0 "slow requests" rfl rfl hink hink' hes).2 fun _ => ?_
  rw [hnone, hnone']
  exact ⟨rfl, fun _ => rfl⟩

/-- A call to a hosted model with a credential, and its answer. -/
def keyedCall (key : String) : Desk × List DeskEffect :=
  sample.run [.ask 0 (.text "slow requests") (Gateway.hostedConfig.withKey key),
    .answer 0 (.response 200 (Json.object (hostedReply "\x7b\x7d")).render.toUTF8)
      ⟨1709294400123456⟩]

/-- **A credential with an accent can be told** from one without: nothing is posted,
    and the message names the character and its place. -/
theorem run_accentedKey :
    ¬ Indistinct (keyedCall "sk-e") (keyedCall "sk-é") ∧
    (posts (keyedCall "sk-e").2).length = 1 ∧ (keyedCall "sk-e").1.outcome.errorMessage = none ∧
    (posts (keyedCall "sk-é").2).length = 0 ∧ (keyedCall "sk-é").1.outcome.errorMessage =
      some ("Unexpected backend failure: 'ascii' codec can't encode character '\\xe9' " ++
        "in position 10: ordinal not in range(128)") := by
  refine ⟨fun h => ?_, by decide +kernel⟩
  exact absurd h.posted (by decide +kernel)

end Desk

end SpanQuest
