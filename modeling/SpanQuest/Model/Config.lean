/-
  Client configurations: which model is asked, and how it is reached.

  A configuration may lack the credential that its model wants: that is for
  the gateway to refuse, before anything is sent.  One that is built without
  checks may hold any value in the place of the model; the other fields are texts
  here, or absent, in such a configuration too.
-/
import SpanQuest.Json.Display
import SpanQuest.Model.Identity
import SpanQuest.Text.Blank
import SpanQuest.Trouble

namespace SpanQuest

/-- What stands in the place of the model. -/
inductive ModelChoice where
  | known (m : ModelIdentity)
  /-- A value that was not checked. -/
  | unchecked (v : Json)
  deriving Inhabited

/-- Which model is asked, and how it is reached.  Only the model may be a value
    that was not checked: what else than a text might stand in the other three
    fields is not modelled. -/
structure ClientConfig where
  model : ModelChoice
  apiKey : Option String
  baseUrl : Option String
  localModel : Option String
  deriving Inhabited

/-- The text without the slashes at its end. -/
def dropTrailingSlashes (s : String) : String :=
  String.ofList (s.toList.reverse.dropWhile (· == '/')).reverse

namespace ClientConfig

/-- Where the hosted backend is. -/
def hostedUrl : String := "https://api.openai.com/v1"

/-- Where the local backend is unless said otherwise. -/
def localUrl : String := "http://localhost:11434"

/-- The model of the local backend unless said otherwise. -/
def defaultLocalModel : String := "llama2"

/-- A text that is there and not empty, else another. -/
def orElseText (s : Option String) (other : String) : String :=
  match s with
  | some s => if s.isEmpty then other else s
  | none => other

/-- The credential has a character that is not blank. -/
def hasCredential (c : ClientConfig) : Bool :=
  match c.apiKey with
  | some key => Text.hasInk key
  | none => false

/-- The address that a model is called at. -/
def endpointFor (c : ClientConfig) (m : ModelIdentity) : String :=
  if m.isHosted then hostedUrl else dropTrailingSlashes (orElseText c.baseUrl localUrl)

/-- The text of an optional field, or an issue with it. -/
def textField (name : String) : Json → Except Issue (Option String)
  | .null => .ok none
  | .text s => .ok (some s)
  | _ => .error ⟨.wantsText, [name]⟩

/-- The issues among the results of checks. -/
def issuesOf {α : Type} (checks : List (Except Issue α)) : List Issue :=
  checks.filterMap fun
    | .error i => some i
    | .ok _ => none

/-- The configuration of these values: the model has to be known, and the other
    fields are texts or null.  Without a model it is the local one. -/
def check (model : Option Json) (apiKey baseUrl localModel : Json) :
    Except Trouble ClientConfig :=
  let value := model.getD (.text ModelIdentity.ollama.name)
  match ModelIdentity.ofJson? value with
  | none => .error (.failure (.unknownModel value.display))
  | some m =>
    match textField "api_key" apiKey, textField "base_url" baseUrl,
        textField "local_model" localModel with
    | .ok key, .ok url, .ok name => .ok ⟨.known m, key, url, name⟩
    | key, url, name =>
      .error (.rejected ⟨"ClientConfig", issuesOf [key, url, name]⟩)

end ClientConfig

end SpanQuest
