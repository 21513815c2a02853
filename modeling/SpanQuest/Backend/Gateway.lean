/-
  The gateway: one contract over both backends.

  A configuration is checked before anything is sent (`Gateway.validate`), so
  that a hosted model without a credential never reaches the network.  An
  answer becomes a `Completion`, whose text is a text.
-/
import SpanQuest.Backend.Adapter
import SpanQuest.Backend.Deadline

namespace SpanQuest

/-- The reply of a model. -/
structure Completion where
  text : String
  model : ModelIdentity
  deriving DecidableEq, Repr, Inhabited

namespace Gateway

open Backend

/-- The model of a configuration that can be sent: it is known, and if it is
    hosted there is a credential. -/
def validate (config : ClientConfig) : Except Failure ModelIdentity :=
  match config.model with
  | .unchecked v => .error (.unknownModel v.display)
  | .known m =>
    if m.isHosted && !config.hasCredential then .error .missingCredential else .ok m

/-- A configuration is valid with a known model, which has a credential if it is
    hosted. -/
theorem validate_eq_ok {config : ClientConfig} {m : ModelIdentity}
    (h : validate config = .ok m) :
    config.model = .known m ∧ (m.isHosted = true → config.hasCredential = true) := by
  unfold validate at h
  split at h
  · cases h
  · next m' hm =>
    split at h
    · cases h
    · next hcredential =>
      cases h
      exact ⟨hm, fun hhosted => by simpa [hhosted] using hcredential⟩

/-- The adapter for a model of a configuration; the hosted backend wants a
    credential, if only an empty one. -/
def adapterFor (config : ClientConfig) (m : ModelIdentity) : Except Fault Adapter :=
  if m.isHosted then
    match config.apiKey with
    | none => .error (.noMember Json.null.kindName "get_secret_value")
    | some key =>
      .ok (.hosted (.text key) (.text m.hostedName) (config.endpointFor m) defaultTemperature
        (.int Hosted.defaultMaxTokens))
  else
    .ok (.ollama (.ofOption config.localModel) (config.endpointFor m) defaultTemperature)

/-- The adapter for a configuration that may hold any value as its model.  A
    text that merely names a model has none of a model's answers. -/
def adapterOf (config : ClientConfig) : Except Trouble Adapter :=
  match config.model with
  | .known m => (adapterFor config m).mapError .fault
  | .unchecked v =>
    match ModelIdentity.ofJson? v with
    | some _ => .error (.fault (.noMember v.kindName "is_hosted"))
    | none => .error (.failure (.unknownModel v.display))

/-- The completion that an adapter's text is. -/
def completionOf (m : ModelIdentity) : Json → Except Trouble Completion
  | .text s => .ok ⟨s, m⟩
  | _ => .error (.rejected ⟨"CompletionResult", [⟨.wantsText, ["text"]⟩]⟩)

/-- What an answer means to a caller who still waits. -/
def completionFrom (adapter : Adapter) (m : ModelIdentity) (answer : Answer) :
    Except Trouble Completion :=
  match adapter.receive .fresh answer with
  | .error t => .error t
  | .ok v => completionOf m v

end Gateway

end SpanQuest
