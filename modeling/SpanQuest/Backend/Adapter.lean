/-
  Adapters: a prompt in, a text out, over one of the two backends.

  `Adapter.post` is what a prompt is sent as, and `Adapter.receive` what an
  answer means.  A post may go to what is no full address, but a response from
  there has no result.  The token is looked at once a response is there: after
  it was tripped, no response has a result.
-/
import SpanQuest.Address
import SpanQuest.Backend.Hosted
import SpanQuest.Backend.Local
import SpanQuest.Backend.Status
import SpanQuest.Json.Finite
import SpanQuest.Model.Config
import SpanQuest.Trouble.Raised

namespace SpanQuest.Backend

/-- What an adapter has beyond an address and a model. -/
inductive Protocol where
  | hosted (key maxTokens : Json)
  | ollama
  deriving Inhabited

/-- One backend at one address, with one model.  What goes into the posts as it
    is may be any value. -/
structure Adapter where
  protocol : Protocol
  baseUrl : String
  model : Json
  temperature : Json
  deriving Inhabited

/-- How varied a completion is unless said otherwise. -/
def defaultTemperature : Json := .double (.ofDecimal false 7 (-1))

namespace Adapter

/-- The name of the backend in messages. -/
def backendName (a : Adapter) : String :=
  match a.protocol with
  | .hosted .. => Hosted.name
  | .ollama => Local.name

/-! ## Construction -/

/-- The adapter of the hosted backend. -/
def hosted (key model : Json) (baseUrl : String) (temperature maxTokens : Json) : Adapter where
  protocol := .hosted key maxTokens
  baseUrl := dropTrailingSlashes baseUrl
  model := model
  temperature := temperature

/-- The adapter of the local backend; an address and a model that do not count
    as present have their defaults. -/
def ollama (model : Json) (baseUrl : String) (temperature : Json) : Adapter where
  protocol := .ollama
  baseUrl := dropTrailingSlashes (ClientConfig.orElseText (some baseUrl) ClientConfig.localUrl)
  model := model.orElse (.text ClientConfig.defaultLocalModel)
  temperature := temperature

/-- The names of the arguments that each backend takes. -/
def argumentNames (hosted : Bool) : List String :=
  if hosted then ["api_key", "model", "base_url", "max_tokens", "temperature"]
  else ["model", "base_url", "temperature"]

/-- The text that an argument for an address is. -/
def addressText : Json → Except Fault String
  | .text url => .ok url
  | v => .error (.noMember v.kindName "rstrip")

/-- The adapter of named arguments.  The hosted backend wants a credential, and
    neither takes an argument of another name. -/
def ofArguments (isHosted : Bool) (arguments : Json) : Except Fault Adapter :=
  let names := match arguments with
    | .object members => Mapping.keys members
    | _ => []
  let given := fun name other => (arguments.member? name).getD other
  let temperature := given "temperature" defaultTemperature
  if names.any fun n => !(argumentNames isHosted).contains n then .error .badArguments
  else if isHosted then
    match arguments.member? "api_key" with
    | none => .error .badArguments
    | some key =>
      (addressText (given "base_url" (.text ClientConfig.hostedUrl))).map fun url =>
        hosted key (given "model" (.text Hosted.defaultModel)) url temperature
          (given "max_tokens" (.int Hosted.defaultMaxTokens))
  else
    (addressText ((arguments.member "base_url").orElse (.text ClientConfig.localUrl))).map fun url =>
      ollama (arguments.member "model") url temperature

/-! ## The exchange -/

/-- What is called. -/
def endpoint (a : Adapter) : String :=
  match a.protocol with
  | .hosted .. => a.baseUrl ++ Hosted.path
  | .ollama => a.baseUrl ++ Local.path

/-- The header of a credential. -/
def credential (a : Adapter) : Option String :=
  match a.protocol with
  | .hosted key _ => some (Hosted.bearer key)
  | .ollama => none

/-- What a prompt is sent as; it goes into the body as it is. -/
def body (a : Adapter) (prompt : Json) : Json :=
  match a.protocol with
  | .hosted _ maxTokens => Hosted.body a.model a.temperature maxTokens prompt
  | .ollama => Local.body a.model a.temperature prompt

/-- What is posted for a prompt.  The address has to be one, the credential ASCII,
    and the body JSON; the first of them that is not counts.  A user in the
    address goes before the credential. -/
def post (a : Adapter) (prompt : Json) : Except Fault Post :=
  match Address.read a.endpoint with
  | .error flaw => .error (.badAddress flaw)
  | .ok address =>
    match a.credential.bind Hosted.headerFault? with
    | some f => .error f
    | none =>
      let body := a.body prompt
      if body.isFinite then
        .ok ⟨address.place, address.authorization.or a.credential, body⟩
      else .error .notFinite

/-- The reason that an error response gives. -/
def reasonOf (a : Adapter) (body : ByteArray) : Except Fault (Option String) :=
  match a.protocol with
  | .hosted .. => .ok (Hosted.reasonOf (Json.readBytes? body))
  | .ollama => Local.reasonOf (Text.fromUtf8Lossy body)

/-- The failure that an error response is. -/
def failureOf (a : Adapter) (status : Int) (reason : Option String) : Failure :=
  let message := ClientConfig.orElseText reason (statusLine status)
  let lacking := match a.protocol with
    | .hosted .. => false
    | .ollama => Local.lacksModel message
  if lacking then .notInstalled a.model (.int status) (.ofOption reason)
  else .protocol s!"{a.backendName} API error: {message}" (.int status) (.ofOption reason)

/-- The text of a successful response. -/
def textOf (a : Adapter) (status : Int) (body : ByteArray) : Except Trouble Json :=
  match Json.readBytes? body with
  | none => .error (.failure (.protocol s!"{a.backendName} returned a non-JSON body" (.int status) .null))
  | some (.object members) =>
    match a.protocol with
    | .hosted .. => (Hosted.textOf (.object members)).mapError .fault
    | .ollama => .ok (Local.textOf (.object members))
  | some _ =>
    .error (.failure (.protocol s!"{a.backendName} returned an unexpected body" (.int status) .null))

/-- What a response means, to one who waits for it. -/
def read (a : Adapter) (status : Int) (body : ByteArray) : Except Trouble Json :=
  if isSuccess status then a.textOf status body
  else
    match a.reasonOf body with
    | .error f => .error (.fault f)
    | .ok reason => .error (.failure (a.failureOf status reason))

/-- What is wrong with a response from the address that is called: it has to be
    a full one. -/
def addressFault? (a : Adapter) : Option Fault :=
  match Address.read a.endpoint with
  | .error flaw => some (.badAddress flaw)
  | .ok address => if address.isFull then none else some (.notFullAddress address.place)

/-- What an answer means. -/
def receive (a : Adapter) (token : Token) : Answer → Except Trouble Json
  | .unreachable detail =>
    .error (.failure (.unreachable (.text a.baseUrl) (.text a.backendName) (.text detail)))
  | .failed f => .error (.failure f)
  | .broken fault => .error (.fault (Raised.awaited fault))
  | .response status body =>
    match a.addressFault? with
    | some f => .error (.fault f)
    | none =>
      match token.check with
      | .error t => .error t
      | .ok () => a.read status body

/-- After the token was tripped no response has a result. -/
theorem receive_response_trip (a : Adapter) (token : Token) (reason : Json) (status : Int)
    (body : ByteArray) :
    a.receive (token.trip reason) (.response status body) =
      .error (match a.addressFault? with
        | some f => .fault f
        | none => .withdrawn reason.display) := by
  unfold receive
  cases a.addressFault? <;> rfl

end Adapter

end SpanQuest.Backend
