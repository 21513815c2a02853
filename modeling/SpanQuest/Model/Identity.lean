/-
  Model identities: the closed set of models that a question can go to.

  Two are hosted and want a credential, one runs on a backend of the user's
  own.
-/
import SpanQuest.Json.Value

namespace SpanQuest

/-- A model that a question can go to. -/
inductive ModelIdentity where
  | gpt4
  | gpt35
  | ollama
  deriving DecidableEq, Repr, Inhabited

namespace ModelIdentity

/-- The name by which users choose a model. -/
def name : ModelIdentity → String
  | gpt4 => "openai-gpt4"
  | gpt35 => "openai-gpt3.5"
  | ollama => "ollama-free"

/-- The model of a name. -/
def ofName? (s : String) : Option ModelIdentity :=
  if s == gpt4.name then some gpt4
  else if s == gpt35.name then some gpt35
  else if s == ollama.name then some ollama
  else none

/-- The model that a value names. -/
def ofJson? : Json → Option ModelIdentity
  | .text s => ofName? s
  | _ => none

/-- The model runs on the hosted backend. -/
def isHosted : ModelIdentity → Bool
  | gpt4 | gpt35 => true
  | ollama => false

/-- The name of the model at the hosted backend. -/
def hostedName : ModelIdentity → String
  | gpt4 => "gpt-4"
  | gpt35 => "gpt-3.5-turbo"
  | ollama => ""

end ModelIdentity

end SpanQuest
