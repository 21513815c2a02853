/-
  Failures: how a request fails in a way that its caller is told about.

  A failure has a kind, by which callers tell failures apart, and a message.
  A `Class` is finer than a kind: a busy desk and a bad prompt are failures of
  the configuration, but a caller over HTTP is told the first by a status of
  its own (`Failure.httpStatus`).
-/
import SpanQuest.Json.Display
import SpanQuest.Text.Excerpt

namespace SpanQuest

/-! ## Kinds -/

/-- The kinds by which callers tell failures apart. -/
inductive FailureKind where
  | general
  | configuration
  | unreachable
  | protocol
  | notInstalled
  | timeout
  | unparsable
  deriving DecidableEq, Repr

/-- The name of a kind, as answers give it. -/
def FailureKind.name : FailureKind → String
  | general => "TraceQueryError"
  | configuration => "ConfigurationError"
  | unreachable => "BackendUnreachable"
  | protocol => "ProtocolError"
  | notInstalled => "ModelNotInstalled"
  | timeout => "TimeoutError"
  | unparsable => "ParseError"

/-! ## Failures -/

/-- A failure that a caller is told about.  What it tells beside its wording may
    come from others and is any value. -/
inductive Failure where
  | general (message : String)
  /-- A missing credential, an empty question, an unknown model, a bad setting. -/
  | configuration (message : String)
  /-- No prompt of that name. -/
  | promptMissing (message : String)
  /-- A prompt that cannot be filled in. -/
  | promptUnusable (message : String)
  /-- A request while another one is outstanding. -/
  | busy (message : String)
  /-- The backend cannot be reached. -/
  | unreachable (endpoint backend detail : Json)
  /-- The backend answered, but not as agreed. -/
  | protocol (message : String) (status reason : Json)
  /-- The local backend lacks the model. -/
  | notInstalled (model status reason : Json)
  /-- The backend did not answer before the deadline. -/
  | timeout (seconds : Double)
  /-- The reply of the model holds no usable object; `shown` is its excerpt. -/
  | unparsable (reason : Json) (shown : String)
  deriving Inhabited

namespace Failure

/-- The kind of a failure. -/
def kind : Failure → FailureKind
  | general _ => .general
  | configuration _ | promptMissing _ | promptUnusable _ | busy _ => .configuration
  | unreachable .. => .unreachable
  | protocol .. => .protocol
  | notInstalled .. => .notInstalled
  | timeout _ => .timeout
  | unparsable .. => .unparsable

/-- How a model is fetched for the local backend. -/
def installHint (model : Json) : String :=
  s!"ollama pull {model.display}"

/-- The wording of a failure. -/
def message : Failure → String
  | general m | configuration m | promptMissing m | promptUnusable m | busy m => m
  | unreachable endpoint backend detail =>
    let name := backend.display
    let said :=
      s!"Unable to connect to {name} at {endpoint.display}. Make sure {name} is running and reachable."
    if detail.isTruthy then s!"{said} ({detail.display})" else said
  | protocol m _ _ => m
  | notInstalled model _ _ =>
    s!"Ollama model '{model.display}' not found. Install it with: {installHint model}"
  | timeout seconds => s!"LLM request timed out after {seconds.brief}s"
  | unparsable reason shown =>
    let said := s!"Failed to parse LLM response as JSON: {reason.display}"
    if shown.isEmpty then said else s!"{said} (response: {Text.quoted shown})"

/-- The status that a caller over HTTP is told. -/
def httpStatus : Failure → Nat
  | busy _ => 409
  | configuration _ | promptMissing _ | promptUnusable _ => 400
  | unparsable .. => 422
  | protocol .. | notInstalled .. => 502
  | unreachable .. => 503
  | timeout _ => 504
  | general _ => 500

/-! ## The failures of this project -/

/-- What a second request is told while one is outstanding. -/
def inProgress : Failure :=
  busy "A query is already in progress"

/-- The question has no character that is not blank. -/
def blankQuestion : Failure :=
  configuration "Please enter a question"

/-- The hosted backend is asked without a credential. -/
def missingCredential : Failure :=
  configuration "OpenAI API key is required"

/-- No model has that identity. -/
def unknownModel (shown : String) : Failure :=
  configuration s!"Unknown model: {shown}"

/-- The text is no lookback. -/
def badLookback (lookback : String) : Failure :=
  configuration s!"Invalid lookback: {Text.quoted lookback} (expected e.g. 15m, 1h, 2d, 1w)"

/-- A variable holds no number. -/
def notANumber (name raw : String) : Failure :=
  configuration s!"{name} must be a number, got {Text.quoted raw}"

/-- The reply of the model holds no usable object. -/
def unusableReply (reason : Json) (reply : String) : Failure :=
  unparsable reason (Text.excerpt reply Text.excerptLimit)

/-- Only a busy desk answers 409. -/
theorem httpStatus_eq_409_iff (f : Failure) : f.httpStatus = 409 ↔ ∃ m, f = busy m := by
  cases f <;> simp [httpStatus]

end Failure

end SpanQuest
