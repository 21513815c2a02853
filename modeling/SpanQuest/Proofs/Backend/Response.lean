/-
  What a response comes to.

  A response is as agreed, and then it gives a completion or one of the two
  failures that a response may be; or it is not, and then something else
  escapes.  A body is as agreed where each value on the way to its text has the
  kind that it should have, as far as it counts as present.

  * `Hosted.textOf_eq_ok_iff`, `Local.textOf_eq_text_iff`: the texts in bodies;
  * `completionFrom_eq_ok_iff`: the responses that give a completion;
  * `completionFrom_documented`, `completionFrom_escapes`: the two ways out;
  * `response_outcomes`: both of them, for every configuration that can be sent.
-/
import Mathlib.Data.List.TakeWhile
import SpanQuest.Backend.Gateway

namespace SpanQuest

open Backend

/-! ## The text in a body -/

theorem Json.orElse_empty_eq_text_iff {v : Json} {s : String} :
    v.orElse (.text "") = .text s ↔ (v.isTruthy = false ∧ s = "") ∨ v = .text s := by
  unfold Json.orElse
  cases hv : v.isTruthy with
  | false =>
    simp only [Bool.false_eq_true, if_false, Json.text.injEq, true_and]
    constructor
    · rintro rfl
      exact Or.inl rfl
    · rintro (rfl | rfl)
      · rfl
      · simpa [Json.isTruthy] using hv.symm
  | true => simp

namespace Backend.Hosted

/-- The body carries the text: as the content of the message of the first choice,
    and the empty text where one of these counts as absent. -/
inductive Carries (body : Json) : String → Prop where
  | noChoices (h : (body.member "choices").isTruthy = false) : Carries body ""
  | noMessage {choice : List (String × Json)} {others : List Json}
      (hchoices : body.member "choices" = .array (.object choice :: others))
      (h : ((Json.object choice).member "message").isTruthy = false) : Carries body ""
  | noContent {choice message : List (String × Json)} {others : List Json}
      (hchoices : body.member "choices" = .array (.object choice :: others))
      (hmessage : (Json.object choice).member "message" = .object message)
      (h : ((Json.object message).member "content").isTruthy = false) : Carries body ""
  | content {choice message : List (String × Json)} {others : List Json} {s : String}
      (hchoices : body.member "choices" = .array (.object choice :: others))
      (hmessage : (Json.object choice).member "message" = .object message)
      (h : (Json.object message).member "content" = .text s) : Carries body s

theorem memberOf_object (name : String) (members : List (String × Json)) :
    memberOf name (.object members) = .ok ((Json.object members).member name) :=
  rfl

theorem memberOf_eq_ok {name : String} {v w : Json} (h : memberOf name v = .ok w) :
    ∃ members, v = .object members ∧ w = (Json.object members).member name := by
  cases v with
  | object members =>
    cases h
    exact ⟨members, rfl, rfl⟩
  | _ => cases h

theorem firstOf_eq_object {v : Json} {members : List (String × Json)}
    (h : firstOf v = .ok (.object members)) : ∃ others, v = .array (.object members :: others) := by
  unfold firstOf at h
  split at h
  · next first others =>
    cases h
    exact ⟨others, rfl⟩
  · split at h <;> cases h
  · cases h
  · cases h

theorem carries_of_message {body : Json} {choice message : List (String × Json)}
    {others : List Json} (hchoices : body.member "choices" = .array (.object choice :: others))
    (hmessage : (Json.object choice).member "message" = .object message) {s : String}
    (h : ((Json.object message).member "content").orElse (.text "") = .text s) :
    Carries body s := by
  rcases Json.orElse_empty_eq_text_iff.1 h with ⟨hcontent, rfl⟩ | hcontent
  · exact .noContent hchoices hmessage hcontent
  · exact .content hchoices hmessage hcontent

theorem textOf_of_choices {body : Json} {choice : List (String × Json)} {others : List Json}
    (h : body.member "choices" = .array (.object choice :: others)) :
    textOf body =
      if ((Json.object choice).member "message").isTruthy then
        (memberOf "content" ((Json.object choice).member "message")).map fun v => v.orElse (.text "")
      else .ok (.text "") := by
  have hpresent : (Json.array (.object choice :: others)).isTruthy = true := rfl
  unfold textOf
  rw [h]
  cases hmessage : ((Json.object choice).member "message").isTruthy <;>
    simp [hpresent, firstOf, memberOf_object, hmessage]

theorem textOf_of_message {body : Json} {choice message : List (String × Json)}
    {others : List Json} (hchoices : body.member "choices" = .array (.object choice :: others))
    (hmessage : (Json.object choice).member "message" = .object message) :
    textOf body = .ok (((Json.object message).member "content").orElse (.text "")) := by
  rw [textOf_of_choices hchoices, hmessage]
  rcases message with _ | ⟨m, ms⟩
  · rfl
  · rfl

/-- **The text of a body is the one that it carries.** -/
theorem textOf_eq_ok_iff {body : Json} {s : String} :
    textOf body = .ok (.text s) ↔ Carries body s := by
  constructor
  · intro h
    unfold textOf at h
    dsimp only at h
    split at h
    · next hchoices =>
      cases h
      exact .noChoices (by simpa using hchoices)
    · split at h
      · cases h
      · next choice hfirst =>
        split at h
        · cases h
        · next message hmember =>
          obtain ⟨members, rfl, rfl⟩ := memberOf_eq_ok hmember
          obtain ⟨others, hchoices⟩ := firstOf_eq_object hfirst
          split at h
          · next hmessage =>
            cases h
            exact .noMessage hchoices (by simpa using hmessage)
          · rcases hcontent : memberOf "content" ((Json.object members).member "message") with f | v
            · rw [hcontent] at h
              cases h
            · rw [hcontent] at h
              obtain ⟨message, hmessage, rfl⟩ := memberOf_eq_ok hcontent
              exact carries_of_message hchoices hmessage (Except.ok.inj h)
  · intro h
    cases h with
    | noChoices h => simp [textOf, h]
    | noMessage hchoices h =>
      rw [textOf_of_choices hchoices, h]
      rfl
    | noContent hchoices hmessage h =>
      rw [textOf_of_message hchoices hmessage]
      exact congrArg _ (Json.orElse_empty_eq_text_iff.2 (Or.inl ⟨h, rfl⟩))
    | content hchoices hmessage h =>
      rw [textOf_of_message hchoices hmessage]
      exact congrArg _ (Json.orElse_empty_eq_text_iff.2 (Or.inr h))

end Backend.Hosted

namespace Backend.Local

/-- The body carries the text: as the response, and the empty text where that counts
    as absent. -/
inductive Carries (body : Json) : String → Prop where
  | noResponse (h : (body.member "response").isTruthy = false) : Carries body ""
  | response {s : String} (h : body.member "response" = .text s) : Carries body s

/-- **The text of a body is the one that it carries.** -/
theorem textOf_eq_text_iff {body : Json} {s : String} :
    textOf body = .text s ↔ Carries body s := by
  unfold textOf
  rw [Json.orElse_empty_eq_text_iff]
  constructor
  · rintro (⟨h, rfl⟩ | h)
    · exact .noResponse h
    · exact .response h
  · rintro (h | h)
    · exact Or.inl ⟨h, rfl⟩
    · exact Or.inr h

end Backend.Local

/-! ## The text of a response -/

namespace Backend.Adapter

/-- The body carries the text, as its backend has it. -/
def Carries (a : Adapter) (body : Json) (s : String) : Prop :=
  match a.protocol with
  | .hosted .. => Hosted.Carries body s
  | .ollama => Local.Carries body s

/-- The bytes are the text of an object. -/
def IsObject (bytes : ByteArray) : Prop :=
  ∃ members, Json.readBytes? bytes = some (.object members)

theorem textOf_eq_text_iff {a : Adapter} {status : Int} {body : ByteArray}
    {members : List (String × Json)} (h : Json.readBytes? body = some (.object members))
    {s : String} : a.textOf status body = .ok (.text s) ↔ a.Carries (.object members) s := by
  unfold Adapter.textOf Adapter.Carries
  rw [h]
  rcases a.protocol with ⟨key, maxTokens⟩ | _
  · rw [← Hosted.textOf_eq_ok_iff]
    dsimp only
    rcases Hosted.textOf (.object members) with f | v <;> simp [Except.mapError]
  · rw [← Local.textOf_eq_text_iff]
    simp

theorem textOf_of_not_isObject {a : Adapter} (status : Int) {body : ByteArray}
    (h : ¬ IsObject body) :
    ∃ f : Failure, a.textOf status body = .error (.failure f) ∧ f.kind = .protocol := by
  unfold Adapter.textOf
  split
  · exact ⟨_, rfl, rfl⟩
  · next members hread => exact absurd ⟨members, hread⟩ h
  · exact ⟨_, rfl, rfl⟩

/-- An object that carries no text is a fault, or a value that is no text. -/
theorem textOf_of_not_carries {a : Adapter} (status : Int) {body : ByteArray}
    {members : List (String × Json)} (hread : Json.readBytes? body = some (.object members))
    (h : ∀ s, ¬ a.Carries (.object members) s) :
    (∃ f, a.textOf status body = .error (.fault f)) ∨
      ∃ v, a.textOf status body = .ok v ∧ ∀ s, v ≠ .text s := by
  rcases htext : a.textOf status body with t | v
  · left
    unfold Adapter.textOf at htext
    rw [hread] at htext
    dsimp only at htext
    split at htext
    · rcases hhosted : Hosted.textOf (.object members) with f | v
      · rw [hhosted] at htext
        cases htext
        exact ⟨f, rfl⟩
      · rw [hhosted] at htext
        cases htext
    · cases htext
  · right
    refine ⟨v, rfl, ?_⟩
    rintro s rfl
    exact h s ((textOf_eq_text_iff hread).1 htext)

theorem kind_failureOf (a : Adapter) (status : Int) (reason : Option String) :
    (a.failureOf status reason).kind = .protocol ∨
      (a.failureOf status reason).kind = .notInstalled := by
  unfold Adapter.failureOf
  rcases a.protocol with ⟨key, maxTokens⟩ | _
  · exact Or.inl rfl
  · cases hlacks : Local.lacksModel (ClientConfig.orElseText reason (statusLine status)) with
    | false =>
      left
      simp [hlacks, Failure.kind]
    | true =>
      right
      simp [hlacks, Failure.kind]

/-- The reason of an error response cannot be read where the body of the local
    backend has an integer that is too long. -/
theorem reasonOf_eq_error_iff {a : Adapter} {body : ByteArray} :
    (∃ f, a.reasonOf body = .error f) ↔ a.protocol = .ollama ∧
      ∃ count, Json.read (Text.fromUtf8Lossy body) = .error (.tooManyDigits count) := by
  unfold Adapter.reasonOf
  split
  · next hprotocol => simp [hprotocol]
  · next hprotocol =>
    unfold Local.reasonOf
    rcases Json.read (Text.fromUtf8Lossy body) with (⟨c, p⟩ | count) | v <;> simp [hprotocol]

/-- **A response is as agreed**: it comes from a full address; a success carries a
    text if its body is an object; and no integer in an error of the local
    backend is too long. -/
structure Agreed (a : Adapter) (status : Int) (body : ByteArray) : Prop where
  address : a.addressFault? = none
  text : isSuccess status = true → ∀ members, Json.readBytes? body = some (.object members) →
    ∃ s, a.Carries (.object members) s
  reason : isSuccess status = false → a.protocol = .ollama →
    ∀ count, Json.read (Text.fromUtf8Lossy body) ≠ .error (.tooManyDigits count)

end Backend.Adapter

/-! ## Ways out -/

namespace Gateway

/-- A completion of the model, or a failure that a response may be. -/
def Documented (m : ModelIdentity) : Except Trouble Completion → Prop
  | .ok c => c.model = m
  | .error (.failure f) => f.kind = .protocol ∨ f.kind = .notInstalled
  | .error _ => False

/-- Something below a request, or a value that is no text, in place of a failure. -/
def Escapes : Except Trouble Completion → Prop
  | .error (.fault _) | .error (.rejected _) => True
  | _ => False

section

variable {adapter : Adapter} {m : ModelIdentity} {status : Int} {body : ByteArray}

theorem receive_fresh_response (h : adapter.addressFault? = none) :
    adapter.receive .fresh (.response status body) = adapter.read status body := by
  unfold Adapter.receive
  dsimp only
  rw [h]
  rfl

theorem completionFrom_of_success (h : adapter.addressFault? = none)
    (hsuccess : isSuccess status = true) :
    completionFrom adapter m (.response status body) =
      match adapter.textOf status body with
      | .error t => .error t
      | .ok v => completionOf m v := by
  rcases htext : adapter.textOf status body with t | v <;>
    simp only [completionFrom, receive_fresh_response h, Adapter.read, hsuccess, if_true, htext]

theorem receive_of_not_success (h : adapter.addressFault? = none)
    (hsuccess : isSuccess status = false) :
    adapter.receive .fresh (.response status body) =
      match adapter.reasonOf body with
      | .error f => .error (.fault f)
      | .ok reason => .error (.failure (adapter.failureOf status reason)) := by
  rw [receive_fresh_response h, Adapter.read, hsuccess]
  rfl

theorem completionFrom_of_not_success (h : adapter.addressFault? = none)
    (hsuccess : isSuccess status = false) :
    completionFrom adapter m (.response status body) =
      match adapter.reasonOf body with
      | .error f => .error (.fault f)
      | .ok reason => .error (.failure (adapter.failureOf status reason)) := by
  rw [completionFrom, receive_of_not_success h hsuccess]
  cases adapter.reasonOf body <;> rfl

theorem completionFrom_of_addressFault {f : Fault} (h : adapter.addressFault? = some f) :
    completionFrom adapter m (.response status body) = .error (.fault f) := by
  unfold completionFrom Adapter.receive
  rw [h]

theorem completionOf_eq_ok_iff {v : Json} {c : Completion} :
    completionOf m v = .ok c ↔ v = .text c.text ∧ c.model = m := by
  unfold completionOf
  constructor
  · intro h
    split at h
    · cases h
      exact ⟨rfl, rfl⟩
    · cases h
  · rintro ⟨rfl, rfl⟩
    rfl

/-- **The responses that give a completion**: successes from a full address whose
    body is an object that carries the text. -/
theorem completionFrom_eq_ok_iff {c : Completion} :
    completionFrom adapter m (.response status body) = .ok c ↔
      adapter.addressFault? = none ∧ isSuccess status = true ∧ c.model = m ∧
        ∃ members, Json.readBytes? body = some (.object members) ∧
          adapter.Carries (.object members) c.text := by
  constructor
  · intro h
    rcases haddress : adapter.addressFault? with _ | f
    · cases hsuccess : isSuccess status with
      | false =>
        rw [completionFrom_of_not_success haddress hsuccess] at h
        rcases hreason : adapter.reasonOf body with f | reason <;> rw [hreason] at h <;> cases h
      | true =>
        rw [completionFrom_of_success haddress hsuccess] at h
        rcases Classical.em (Adapter.IsObject body) with ⟨members, hread⟩ | hno
        · rcases htext : adapter.textOf status body with t | v <;> rw [htext] at h
          · cases h
          · obtain ⟨rfl, hm⟩ := completionOf_eq_ok_iff.1 h
            exact ⟨rfl, rfl, hm, members, hread, (Adapter.textOf_eq_text_iff hread).1 htext⟩
        · obtain ⟨f, hf, -⟩ := Adapter.textOf_of_not_isObject (a := adapter) status hno
          rw [hf] at h
          cases h
    · rw [completionFrom_of_addressFault haddress] at h
      cases h
  · rintro ⟨haddress, hsuccess, hm, members, hread, hcarries⟩
    rw [completionFrom_of_success haddress hsuccess,
      (Adapter.textOf_eq_text_iff hread).2 hcarries]
    exact completionOf_eq_ok_iff.2 ⟨rfl, hm⟩

/-- **A response as agreed** gives a completion or a failure that it may be. -/
theorem completionFrom_documented (h : adapter.Agreed status body) :
    Documented m (completionFrom adapter m (.response status body)) := by
  cases hsuccess : isSuccess status with
  | false =>
    rw [completionFrom_of_not_success h.address hsuccess]
    rcases hreason : adapter.reasonOf body with f | reason
    · obtain ⟨hollama, count, hlong⟩ := Adapter.reasonOf_eq_error_iff.1 ⟨f, hreason⟩
      exact absurd hlong (h.reason hsuccess hollama count)
    · exact adapter.kind_failureOf status reason
  | true =>
    rcases Classical.em (Adapter.IsObject body) with ⟨members, hread⟩ | hno
    · obtain ⟨s, hcarries⟩ := h.text hsuccess members hread
      have hcompletion : completionFrom adapter m (.response status body) = .ok ⟨s, m⟩ :=
        completionFrom_eq_ok_iff.2 ⟨h.address, hsuccess, rfl, members, hread, hcarries⟩
      rw [hcompletion]
      rfl
    · obtain ⟨f, hf, hkind⟩ := Adapter.textOf_of_not_isObject (a := adapter) status hno
      rw [completionFrom_of_success h.address hsuccess, hf]
      exact Or.inl hkind

/-- **Of any other response something else escapes.** -/
theorem completionFrom_escapes (h : ¬ adapter.Agreed status body) :
    Escapes (completionFrom adapter m (.response status body)) := by
  rcases haddress : adapter.addressFault? with _ | f
  · cases hsuccess : isSuccess status with
    | false =>
      rw [completionFrom_of_not_success haddress hsuccess]
      rcases hreason : adapter.reasonOf body with f | reason
      · trivial
      -- the reason was read, so that nothing is wrong with the response
      · refine absurd ⟨haddress, fun hs => ?_, fun _ hollama count hlong => ?_⟩ h
        · rw [hsuccess] at hs
          cases hs
        · obtain ⟨f, hf⟩ := Adapter.reasonOf_eq_error_iff.2 ⟨hollama, count, hlong⟩
          rw [hreason] at hf
          cases hf
    | true =>
      have hnone : ∃ members, Json.readBytes? body = some (.object members) ∧
          ∀ s, ¬ adapter.Carries (.object members) s := by
        refine Classical.byContradiction fun hno => h ⟨haddress, fun _ members hread => ?_, ?_⟩
        · exact Classical.not_forall_not.1 fun hcarries => hno ⟨members, hread, hcarries⟩
        · intro hs
          rw [hsuccess] at hs
          cases hs
      obtain ⟨members, hread, hcarries⟩ := hnone
      rw [completionFrom_of_success haddress hsuccess]
      rcases Adapter.textOf_of_not_carries status hread hcarries with ⟨f, hf⟩ | ⟨v, hv, hno⟩
      · rw [hf]
        trivial
      · rw [hv]
        cases v with
        | text s => exact absurd rfl (hno s)
        | _ => trivial
  · rw [completionFrom_of_addressFault haddress]
    trivial

end

/-! ## Configurations that can be sent -/

theorem adapterFor_hosted {config : ClientConfig} {m : ModelIdentity} (hm : m.isHosted = true)
    (hink : config.hasCredential = true) :
    ∃ key, config.apiKey = some key ∧ adapterFor config m =
      .ok (.hosted (.text key) (.text m.hostedName) ClientConfig.hostedUrl defaultTemperature
        (.int Hosted.defaultMaxTokens)) := by
  unfold ClientConfig.hasCredential at hink
  split at hink
  · next key hkey =>
    refine ⟨key, hkey, ?_⟩
    have hendpoint : config.endpointFor m = ClientConfig.hostedUrl := if_pos hm
    rw [adapterFor, if_pos hm, hkey, hendpoint]
  · cases hink

theorem adapterFor_local {config : ClientConfig} {m : ModelIdentity} (hm : m.isHosted = false) :
    adapterFor config m =
      .ok (.ollama (.ofOption config.localModel) (config.endpointFor m) defaultTemperature) := by
  rw [adapterFor, if_neg (by simp [hm])]

theorem addressFault?_eq_none {adapter : Adapter}
    (h : (Address.read adapter.endpoint).toOption.map Address.isFull = some true) :
    adapter.addressFault? = none := by
  unfold Adapter.addressFault?
  rcases hread : Address.read adapter.endpoint with flaw | address
  · rw [hread] at h
    cases h
  · rw [hread] at h
    have haddress : address.isFull = true := by simpa [Except.toOption] using h
    simp [haddress]

theorem addressFault?_hosted (key model temperature maxTokens : Json) :
    (Adapter.hosted key model ClientConfig.hostedUrl temperature maxTokens).addressFault? = none := by
  have hfull : (Address.read (dropTrailingSlashes ClientConfig.hostedUrl ++ Hosted.path)).toOption.map
      Address.isFull = some true := by
    decide +kernel
  exact addressFault?_eq_none hfull

theorem headerFault?_of_ascii {key : String} (h : ∀ c ∈ key.toList, c.toNat < 128) :
    Hosted.headerFault? (Hosted.bearer (.text key)) = none := by
  have hbearer : "Bearer ".toList.all (fun c => decide (c.toNat < 128)) = true := by decide
  have hall : ∀ c ∈ (Hosted.bearer (.text key)).toList, c.toNat < 128 := by
    intro c hc
    rw [Hosted.bearer, Json.display, String.toList_append, List.mem_append] at hc
    rcases hc with hc | hc
    · exact of_decide_eq_true (List.all_eq_true.1 hbearer c hc)
    · exact h c hc
  have hrest : (Hosted.bearer (.text key)).toList.dropWhile (fun c => decide (c.toNat < 0x80)) = [] := by
    rw [List.dropWhile_eq_nil_iff]
    intro c hc
    simpa using hall c hc
  unfold Hosted.headerFault? Hosted.notAscii?
  dsimp only
  rw [hrest]
  rfl

theorem isFinite_defaultTemperature : defaultTemperature.isFinite = true := by
  decide +kernel

theorem isFinite_body_hosted (key url : String) (m : ModelIdentity) (prompt : String) :
    ((Adapter.hosted (.text key) (.text m.hostedName) url defaultTemperature
      (.int Hosted.defaultMaxTokens)).body (.text prompt)).isFinite = true := by
  simp [Adapter.body, Adapter.hosted, Hosted.body, Json.isFinite_object, Json.isFinite,
    Json.allFinite, Json.membersFinite, isFinite_defaultTemperature]

theorem isFinite_body_local (name : Option String) (url prompt : String) :
    ((Adapter.ollama (.ofOption name) url defaultTemperature).body (.text prompt)).isFinite =
      true := by
  have hmodel : ((Json.ofOption name).orElse (.text ClientConfig.defaultLocalModel)).isFinite =
      true := by
    unfold Json.orElse
    cases name <;> split <;> rfl
  simp [Adapter.body, Adapter.ollama, Local.body, Json.isFinite_object, Json.isFinite,
    isFinite_defaultTemperature, hmodel]

theorem post_of_addressFault? {adapter : Adapter} {prompt : Json}
    (haddress : adapter.addressFault? = none)
    (hheader : adapter.credential.bind Hosted.headerFault? = none)
    (hbody : (adapter.body prompt).isFinite = true) : ∃ post, adapter.post prompt = .ok post := by
  unfold Adapter.addressFault? at haddress
  unfold Adapter.post
  split at haddress
  · cases haddress
  · next address hread =>
    rw [hheader]
    simp [hbody]

/-- **A prompt goes out** with a configuration that can be sent, if the address is a
    full one and the credential, where one is needed, is ASCII. -/
theorem exists_post {config : ClientConfig} {m : ModelIdentity} (hvalid : validate config = .ok m)
    (hascii : m.isHosted = true → ∀ key, config.apiKey = some key →
      ∀ c ∈ key.toList, c.toNat < 128) :
    ∃ adapter, adapterFor config m = .ok adapter ∧
      (m.isHosted = true → adapter.addressFault? = none) ∧
      (adapter.addressFault? = none →
        ∀ prompt : String, ∃ post, adapter.post (.text prompt) = .ok post) := by
  obtain ⟨-, hcredential⟩ := validate_eq_ok hvalid
  cases hm : m.isHosted with
  | true =>
    obtain ⟨key, hkey, hadapter⟩ := adapterFor_hosted hm (hcredential hm)
    refine ⟨_, hadapter, fun _ => addressFault?_hosted .., fun haddress prompt => ?_⟩
    exact post_of_addressFault? haddress (headerFault?_of_ascii (hascii hm key hkey))
      (isFinite_body_hosted ..)
  | false =>
    refine ⟨_, adapterFor_local hm, fun hhosted => ?_, fun haddress prompt => ?_⟩
    · cases hhosted
    · exact post_of_addressFault? haddress rfl (isFinite_body_local ..)

/-- **What a response comes to**, for every configuration that can be sent with a
    credential of ASCII, and every prompt: a completion of its model or a failure
    that a response may be, if the response is as agreed; otherwise something else
    escapes. -/
theorem response_outcomes {config : ClientConfig} {m : ModelIdentity}
    (hvalid : validate config = .ok m)
    (hascii : m.isHosted = true → ∀ key, config.apiKey = some key →
      ∀ c ∈ key.toList, c.toNat < 128) :
    ∃ adapter, adapterFor config m = .ok adapter ∧
      (m.isHosted = true → adapter.addressFault? = none) ∧
      (adapter.addressFault? = none →
        ∀ prompt : String, ∃ post, adapter.post (.text prompt) = .ok post) ∧
      ∀ status body,
        (adapter.Agreed status body →
          Documented m (completionFrom adapter m (.response status body))) ∧
        (¬ adapter.Agreed status body →
          Escapes (completionFrom adapter m (.response status body))) := by
  obtain ⟨adapter, hadapter, haddress, hpost⟩ := exists_post hvalid hascii
  refine ⟨adapter, hadapter, haddress, hpost, fun status body => ?_⟩
  constructor
  · exact completionFrom_documented
  · exact completionFrom_escapes

/-- A configuration with a hosted model and a credential. -/
def hostedConfig : ClientConfig where
  model := .known .gpt4
  apiKey := some "sk"
  baseUrl := none
  localModel := none

theorem ascii_hostedConfig :
    ∀ key, hostedConfig.apiKey = some key → ∀ c ∈ key.toList, c.toNat < 128 := by
  intro key hkey c hc
  cases hkey
  have hall : "sk".toList.all (fun c => decide (c.toNat < 128)) = true := by decide
  exact of_decide_eq_true (List.all_eq_true.1 hall c hc)

theorem response_outcomes_hosted :
    validate hostedConfig = .ok .gpt4 ∧
      ∃ adapter, adapterFor hostedConfig .gpt4 = .ok adapter ∧ adapter.addressFault? = none ∧
        ∀ status body,
          (adapter.Agreed status body →
            Documented .gpt4 (completionFrom adapter .gpt4 (.response status body))) ∧
          (¬ adapter.Agreed status body →
            Escapes (completionFrom adapter .gpt4 (.response status body))) := by
  have hvalid : validate hostedConfig = .ok .gpt4 := by rfl
  obtain ⟨adapter, hadapter, haddress, -, houtcomes⟩ :=
    response_outcomes hvalid fun _ => ascii_hostedConfig
  exact ⟨hvalid, adapter, hadapter, haddress rfl, houtcomes⟩

/-- What goes wrong below a request, if that is how it ends. -/
def fault? : Except Trouble Completion → Option Fault
  | .error (.fault f) => some f
  | _ => none

/-- **A number where the first choice should be** gives neither a completion nor a
    failure: a number has no members. -/
theorem completionFrom_numberChoice :
    ∃ adapter, adapterFor hostedConfig .gpt4 = .ok adapter ∧
      (fault? (completionFrom adapter .gpt4
        (.response 200 "\x7b\"choices\": [1]\x7d".toUTF8))).map Fault.message =
          some "'int' object has no attribute 'get'" :=
  ⟨_, rfl, by decide +kernel⟩

end Gateway

end SpanQuest
