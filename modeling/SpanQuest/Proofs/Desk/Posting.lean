/-
  What a call posts, and where to.

  Only a caller who asks makes a desk post, and what is posted depends on the
  question, the prompts and the configuration alone.  For each of the two
  backends `PostedTo` has the one record that it can be: a hosted model is
  called at one address, whatever else the configuration says, and the
  credential is in the header and nowhere else; the local model is called at
  the address of the configuration, and the credential is nowhere.

  * `posts_run_of_not_ask`: nothing but a new call posts;
  * `posts_run_ask`: a call posts at most once, what `posted?` says;
  * `run_confined`: what it posts is confined.
-/
import Mathlib.Data.List.TakeDrop
import SpanQuest.Proofs.Desk.Step

namespace SpanQuest

open Backend

/-! ## Addresses without a user -/

namespace Address

theorem subset_of_splitScheme (cs : List Char) : (splitScheme cs).2 ⊆ cs := by
  unfold splitScheme
  rw [List.span_eq_takeWhile_dropWhile]
  split
  · next name rest hspan =>
    split
    · have hrest : ':' :: rest = cs.dropWhile inScheme := (Prod.ext_iff.1 hspan).2.symm
      exact List.Subset.trans (hrest ▸ List.subset_cons_self ..) (List.dropWhile_suffix _).subset
    · exact List.Subset.refl cs
  · exact List.Subset.refl cs

theorem subset_of_splitAuthority (cs : List Char) : (splitAuthority cs).1 ⊆ cs := by
  unfold splitAuthority
  split
  · rw [List.span_eq_takeWhile_dropWhile]
    exact fun c hc => List.mem_cons_of_mem _ (List.mem_cons_of_mem _ ((List.takeWhile_prefix _).subset hc))
  · exact List.nil_subset _

theorem user_eq_of_read {s : String} {a : Address} (h : read s = .ok a) :
    a.user = Text.percentEncode inUser
      (splitUser (splitAuthority (splitScheme s.toList).2).1).1 := by
  unfold read at h
  dsimp only at h
  split at h
  · cases h
  split at h
  · cases h
  split at h
  · cases h
  split at h
  · cases h
  split at h
  · cases h
  · cases h
    rfl

theorem authorization_of_read {s : String} {a : Address} (h : read s = .ok a)
    (hat : '@' ∉ s.toList) : a.authorization = none := by
  have huser : a.user = [] := by
    have hauthority : '@' ∉ (splitAuthority (splitScheme s.toList).2).1 := fun hmem =>
      hat (subset_of_splitScheme _ (subset_of_splitAuthority _ hmem))
    rw [user_eq_of_read h, splitUser, if_neg (by simpa using hauthority)]
    rfl
  unfold authorization
  rw [huser]
  exact if_pos (by rw [Bool.or_eq_true]; exact Or.inr rfl)

theorem authorization_eq_basic {a : Address} {header : String} (h : a.authorization = some header) :
    ∃ credentials, header = "Basic " ++ credentials := by
  unfold authorization at h
  dsimp only at h
  split at h
  · cases h
  · cases h
    exact ⟨_, rfl⟩

end Address

/-! ## Posts -/

/-- The posts among effects. -/
def posts (effects : List DeskEffect) : List Post :=
  effects.filterMap fun
    | .send _ post => some post
    | _ => none

theorem posts_append (xs ys : List DeskEffect) : posts (xs ++ ys) = posts xs ++ posts ys :=
  List.filterMap_append

namespace Desk

variable {d : Desk} {call : Nat} {question : String}

theorem posts_refuse (d : Desk) (call : Nat) (t : Trouble) : posts (d.refuse call t).2 = [] := by
  unfold refuse
  split <;> rfl

theorem posts_conclude (d : Desk) (call : Nat) (question : String) (t : Resolution) (now : Moment) :
    posts (d.conclude call question t now).2 = [] := by
  unfold conclude
  split
  · exact posts_refuse _ call _
  · rfl

theorem posts_resume (d : Desk) (call : Nat) (question : String) (m : ModelIdentity)
    (adapter : Adapter) (answer : Answer) (now : Moment) :
    posts (d.resume call question m adapter answer now).2 = [] := by
  unfold resume
  split
  · exact posts_refuse _ call _
  unfold resolve
  dsimp only
  split
  · exact posts_refuse _ call _
  split
  · exact posts_refuse _ call _
  split
  · rfl
  · exact posts_conclude _ call _ _ _

theorem posts_answerLate (d : Desk) (call : Nat) (answer : Answer) :
    posts (d.answerLate call answer).2 = [] := by
  unfold answerLate
  split <;> rfl

theorem posts_step_of_not_ask {e : DeskEvent} (he : e.isAsk = false) : posts (d.step e).2 = [] := by
  by_cases hw : d.Awaits e
  · cases hw with
    | answer call question m adapter answer now hp =>
      rw [step_answer hp]
      exact posts_resume d call question m adapter answer now
    | expire call question m adapter seconds hp hs =>
      rw [step_expire hp hs]
      exact posts_refuse _ call _
    | withdraw call p hp =>
      rw [step_withdraw hp]
      rfl
    | searched call question t said now hp =>
      rw [step_searched hp]
      cases said with
      | error trouble => exact posts_refuse d call _
      | ok => exact posts_conclude d call question t now
  · cases hlate : d.isLate e with
    | false =>
      rw [step_passes he hlate hw]
      rfl
    | true =>
      cases e with
      | answer call answer now =>
        rw [step_answer_late hlate]
        exact posts_answerLate d call answer
      | ask | expire | withdraw | searched => cases hlate

/-- **Nothing but a new call posts.** -/
theorem posts_run_of_not_ask {es : List DeskEvent} (hes : ∀ e ∈ es, e.isAsk = false) :
    posts (d.run es).2 = [] := by
  induction es generalizing d with
  | nil => rfl
  | cons e es ih =>
    rw [run_cons, posts_append, posts_step_of_not_ask (hes e (List.mem_cons_self ..)),
      ih fun x hx => hes x (List.mem_cons_of_mem _ hx), List.nil_append]

/-! ## What a call posts -/

/-- What is posted for a question, if anything. -/
def postFor? (prompts : Prompt.Registry) (question : String) (config : ClientConfig) : Option Post :=
  if Text.allBlank question then none
  else
    match Gateway.validate config, (prompts.questionPrompt question).1 with
    | .ok m, .ok prompt =>
      match Gateway.adapterFor config m with
      | .ok adapter => (adapter.post (.text prompt)).toOption
      | .error _ => none
    | _, _ => none

/-- What a desk posts for a caller who asks, if anything. -/
def posted? (d : Desk) (v : Json) (config : ClientConfig) : Option Post :=
  if d.busy then none
  else
    match questionText v with
    | .ok question => postFor? d.prompts question config
    | .error _ => none

theorem posts_refuseWaiting (d : Desk) (call : Nat) (f : Fault) (post : Except Fault Post) :
    posts (d.refuseWaiting call f post).2 = post.toOption.toList := by
  unfold refuseWaiting
  dsimp only
  rw [posts_append, posts_refuse, List.append_nil]
  cases post <;> rfl

theorem posts_accept (d : Desk) (call : Nat) {v : Json} (hv : questionText v = .ok question)
    (config : ClientConfig) :
    posts (d.accept call v config).2 = (postFor? d.prompts question config).toList := by
  unfold accept prepare postFor?
  rw [hv]
  dsimp only
  by_cases hblank : Text.allBlank question = true
  · rw [if_pos hblank, if_pos hblank]
    exact posts_refuse _ call _
  rw [if_neg hblank, if_neg hblank]
  rcases hm : Gateway.validate config with f | m
  · exact posts_refuse _ call _
  rcases hp : d.prompts.questionPrompt question with ⟨t | prompt, prompts⟩
  · exact posts_refuse _ call _
  dsimp only [Except.map]
  rcases ha : Gateway.adapterFor config m with f | adapter
  · exact posts_refuse _ call _
  dsimp only [atStage]
  rcases hf : d.rules.deadline.fault? with _ | f
  · rcases hpost : adapter.post (.text prompt) with f | post
    · exact posts_refuse _ call _
    · rfl
  · exact posts_refuseWaiting _ call f _

theorem posts_run_ask (d : Desk) (call : Nat) (v : Json) (config : ClientConfig)
    {es : List DeskEvent} (hes : ∀ e ∈ es, e.isAsk = false) :
    posts (d.run (.ask call v config :: es)).2 = (d.posted? v config).toList := by
  rw [run_cons, posts_append, posts_run_of_not_ask hes, List.append_nil]
  unfold posted?
  split
  · next hb =>
    rw [step_ask_of_pending hb]
    rfl
  · next hb =>
    rw [step_admitted (by simpa using hb)]
    split
    · next question hv => exact posts_accept d call hv config
    · next r hv =>
      unfold accept
      rw [hv]
      rfl

end Desk

/-! ## Where a post goes -/

/-- **Where a prompt may be posted to, and what goes with it.**  On the local
    backend a header is one that the address itself gives. -/
inductive PostedTo (config : ClientConfig) (prompt : String) : ModelIdentity → Post → Prop where
  | hosted (m : ModelIdentity) (key : String) (hm : m.isHosted = true)
      (hkey : config.apiKey = some key) (hink : Text.hasInk key = true) :
      PostedTo config prompt m
        ⟨"https://api.openai.com/v1/chat/completions", some ("Bearer " ++ key), .object [
          ("model", .text m.hostedName),
          ("messages", .array [.object [("role", .text "user"), ("content", .text prompt)]]),
          ("temperature", defaultTemperature),
          ("max_tokens", .int 500)]⟩
  | onPremises (m : ModelIdentity) (adapter : Adapter) (address : Address) (hm : m.isHosted = false)
      (hadapter : Gateway.adapterFor config m = .ok adapter)
      (hread : Address.read (adapter.baseUrl ++ "/api/generate") = .ok address)
      (huser : ∀ header, address.authorization = some header →
        '@' ∈ adapter.baseUrl.toList ∧ ∃ credentials, header = "Basic " ++ credentials) :
      PostedTo config prompt m ⟨address.place, address.authorization, .object [
        ("model", .text (ClientConfig.orElseText config.localModel "llama2")),
        ("prompt", .text prompt),
        ("stream", .bool false),
        ("temperature", defaultTemperature)]⟩

theorem read_hostedEndpoint : ∃ address,
    Address.read (dropTrailingSlashes ClientConfig.hostedUrl ++ Hosted.path) = .ok address ∧
      address.place = "https://api.openai.com/v1/chat/completions" ∧
      address.authorization = none := by
  refine ⟨⟨"https".toList, [], "api.openai.com".toList, none, "/v1/chat/completions".toList, none,
    none⟩, ?_, ?_, ?_⟩ <;> decide +kernel

theorem hosted_post {config : ClientConfig} {m : ModelIdentity} {adapter : Adapter}
    {prompt : String} {post : Post} (hm : m.isHosted = true) (hink : config.hasCredential = true)
    (hadapter : Gateway.adapterFor config m = .ok adapter)
    (hpost : adapter.post (.text prompt) = .ok post) : PostedTo config prompt m post := by
  obtain ⟨address, hread, hplace, hnone⟩ := read_hostedEndpoint
  unfold ClientConfig.hasCredential at hink
  split at hink
  · next key hkey =>
    unfold Gateway.adapterFor at hadapter
    rw [if_pos hm, hkey] at hadapter
    cases hadapter
    have hendpoint : config.endpointFor m = ClientConfig.hostedUrl := if_pos hm
    unfold Adapter.post at hpost
    simp only [Adapter.endpoint, Adapter.hosted, hendpoint, hread, hplace, hnone] at hpost
    split at hpost
    · cases hpost
    · split at hpost
      · cases hpost
        exact .hosted m key hm hkey hink
      · cases hpost
  · cases hink

theorem localModel_eq (config : ClientConfig) :
    (Json.ofOption config.localModel).orElse (.text ClientConfig.defaultLocalModel) =
      .text (ClientConfig.orElseText config.localModel "llama2") := by
  rcases config.localModel with _ | name
  · rfl
  · cases hname : name.isEmpty <;>
      simp [Json.ofOption, Json.orElse, Json.isTruthy, ClientConfig.orElseText, hname,
        ClientConfig.defaultLocalModel]

theorem local_post {config : ClientConfig} {m : ModelIdentity} {adapter : Adapter}
    {prompt : String} {post : Post} (hm : m.isHosted = false)
    (hadapter : Gateway.adapterFor config m = .ok adapter)
    (hpost : adapter.post (.text prompt) = .ok post) : PostedTo config prompt m post := by
  have hshape : adapter = .ollama (.ofOption config.localModel) (config.endpointFor m)
      defaultTemperature := by
    unfold Gateway.adapterFor at hadapter
    rw [if_neg (by simp [hm])] at hadapter
    cases hadapter
    rfl
  have hprotocol : adapter.protocol = .ollama := by rw [hshape]; rfl
  have hmodel : adapter.model = .text (ClientConfig.orElseText config.localModel "llama2") := by
    rw [hshape]
    exact localModel_eq config
  have htemperature : adapter.temperature = defaultTemperature := by rw [hshape]; rfl
  unfold Adapter.post at hpost
  simp only [Adapter.endpoint, Adapter.credential, Adapter.body, hprotocol, hmodel, htemperature,
    Option.bind_none, Option.or_none] at hpost
  split at hpost
  · cases hpost
  · next address hread =>
    split at hpost
    · cases hpost
      refine .onPremises m adapter address hm hadapter hread fun header hheader => ⟨?_, ?_⟩
      · by_contra hat
        have hnone : address.authorization = none := Address.authorization_of_read hread (by
          rw [String.toList_append, List.mem_append, not_or]
          exact ⟨hat, by decide⟩)
        rw [hnone] at hheader
        cases hheader
      · exact Address.authorization_eq_basic hheader
    · cases hpost

namespace Desk

variable {d : Desk} {call : Nat} {v : Json} {config : ClientConfig}

theorem postedTo_of_postFor? {prompts : Prompt.Registry} {question : String} {post : Post}
    (h : postFor? prompts question config = some post) :
    ∃ m prompt, Text.allBlank question = false ∧ config.model = .known m ∧
      (prompts.questionPrompt question).1 = .ok prompt ∧ PostedTo config prompt m post := by
  unfold postFor? at h
  split at h
  · cases h
  next hblank =>
  split at h
  · next m prompt hm hprompt =>
    obtain ⟨hmodel, hcredential⟩ := Gateway.validate_eq_ok hm
    split at h
    · next adapter hadapter =>
      have hpost : adapter.post (.text prompt) = .ok post := by
        rcases hp : adapter.post (.text prompt) with f | post'
        · rw [hp] at h
          cases h
        · rw [hp] at h
          cases h
          rfl
      refine ⟨m, prompt, by simpa using hblank, hmodel, hprompt, ?_⟩
      cases hhosted : m.isHosted with
      | true => exact hosted_post hhosted (hcredential hhosted) hadapter hpost
      | false => exact local_post hhosted hadapter hpost
    · cases h
  · cases h

theorem eq_text_of_questionText {question : String} (h : questionText v = .ok question)
    (hink : Text.allBlank question = false) : v = .text question := by
  unfold questionText at h
  split at h
  · cases h
    rfl
  · split at h
    · cases h
    · cases h
      cases hink

theorem posted?_congr {config' : ClientConfig}
    (hvalidate : Gateway.validate config' = Gateway.validate config)
    (hadapter : ∀ m, Gateway.validate config = .ok m →
      Gateway.adapterFor config' m = Gateway.adapterFor config m) :
    d.posted? v config' = d.posted? v config := by
  have hpost (question : String) :
      postFor? d.prompts question config' = postFor? d.prompts question config := by
    unfold postFor?
    rw [hvalidate]
    rcases hm : Gateway.validate config with f | m
    · rfl
    · cases (d.prompts.questionPrompt question).1 with
      | error t => rfl
      | ok prompt => simp only [hadapter m hm]
  simp only [posted?, hpost]

/-- **What the posts of a call can be**, whatever happens to it afterwards. -/
structure Confined (d : Desk) (call : Nat) (v : Json) (config : ClientConfig)
    (es : List DeskEvent) : Prop where
  /-- There is at most one, for a question that is not blank, to a model that is
      known, with the prompt for the question. -/
  single : posts (d.run (.ask call v config :: es)).2 = [] ∨ ∃ question m prompt post,
    posts (d.run (.ask call v config :: es)).2 = [post] ∧ v = .text question ∧
      Text.allBlank question = false ∧ config.model = .known m ∧
      (d.prompts.questionPrompt question).1 = .ok prompt ∧ PostedTo config prompt m post
  /-- With the local model the credential makes no difference. -/
  keyless : ∀ m, config.model = .known m → m.isHosted = false → ∀ key,
    posts (d.run (.ask call v { config with apiKey := key } :: es)).2 =
      posts (d.run (.ask call v config :: es)).2
  /-- With a hosted model the address and the name of the local one make none. -/
  placeless : ∀ m, config.model = .known m → m.isHosted = true → ∀ url name,
    posts (d.run (.ask call v { config with baseUrl := url, localModel := name } :: es)).2 =
      posts (d.run (.ask call v config :: es)).2

/-- **The posts of a call are confined.** -/
theorem run_confined (d : Desk) (call : Nat) (v : Json) (config : ClientConfig)
    {es : List DeskEvent} (hes : ∀ e ∈ es, e.isAsk = false) : Confined d call v config es := by
  refine ⟨?_, fun m hm hlocal key => ?_, fun m hm hhosted url name => ?_⟩
  · rw [posts_run_ask d call v config hes]
    rcases hposted : d.posted? v config with _ | post
    · exact Or.inl rfl
    · refine Or.inr ?_
      unfold posted? at hposted
      split at hposted
      · cases hposted
      split at hposted
      · next question hv =>
        obtain ⟨m, prompt, hink, hmodel, hprompt, hto⟩ := postedTo_of_postFor? hposted
        exact ⟨question, m, prompt, post, rfl, eq_text_of_questionText hv hink, hink, hmodel,
          hprompt, hto⟩
      · cases hposted
  · rw [posts_run_ask d call v _ hes, posts_run_ask d call v config hes, posted?_congr]
    · simp only [Gateway.validate, hm, hlocal, Bool.false_and]
    · intro m' hvalid
      obtain ⟨hm', -⟩ := Gateway.validate_eq_ok hvalid
      obtain rfl : m = m' := by simpa [hm] using hm'
      simp only [Gateway.adapterFor, hlocal, Bool.false_eq_true, if_false, ClientConfig.endpointFor]
  · rw [posts_run_ask d call v _ hes, posts_run_ask d call v config hes, posted?_congr]
    · rfl
    · intro m' hvalid
      obtain ⟨hm', -⟩ := Gateway.validate_eq_ok hvalid
      obtain rfl : m = m' := by simpa [hm] using hm'
      simp only [Gateway.adapterFor, hhosted, if_true, ClientConfig.endpointFor]

/-- A call with the local model posts once. -/
theorem run_confined_expired : (∀ e ∈ [DeskEvent.expire 0], e.isAsk = false) ∧
    Confined sample 0 (.text "slow requests") sampleConfig [.expire 0] ∧
      (posts (sample.run [.ask 0 (.text "slow requests") sampleConfig, .expire 0]).2).length = 1 := by
  have hes : ∀ e ∈ [DeskEvent.expire 0], e.isAsk = false := by simp [DeskEvent.isAsk]
  exact ⟨hes, run_confined _ _ _ _ hes, by decide +kernel⟩

/-- The local model at an address with a user. -/
def addressedConfig : ClientConfig := ⟨.known .ollama, none, some "http://u:p@h", none⟩

/-- A user in the address of the local backend is a header of the post, although
    there is no credential. -/
theorem authorization_of_user : addressedConfig.apiKey = none ∧
    (posts (sample.run [.ask 0 (.text "slow requests") addressedConfig]).2).map
      (fun post => (post.url, post.authorization)) =
        [("http://u:p@h/api/generate", some "Basic dTpw")] :=
  ⟨rfl, by decide +kernel⟩

end Desk

end SpanQuest
