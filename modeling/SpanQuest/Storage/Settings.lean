/-
  Settings: what a user saved about the backends.

  A credential and the address of the local backend are values of a store
  under keys of their own; one that is missing or empty counts as not saved.
-/
import SpanQuest.Model.Config
import SpanQuest.Storage.Shelf

namespace SpanQuest.Settings

/-- The key of the credential. -/
def apiKeyKey : String := "jaeger-ai-openai-key"

/-- The key of the address of the local backend. -/
def urlKey : String := "jaeger-ai-ollama-url"

/-- A stored value that counts as present. -/
def present (v : Option Json) : Option Json :=
  v.filter Json.isTruthy

/-- The saved credential. -/
def apiKey (s : Shelf) : Except Fault (Option Json) × Shelf :=
  match s.get apiKeyKey with
  | (.error f, s) => (.error f, s)
  | (.ok v, s) => (.ok (present v), s)

/-- The saved address of the local backend, or the usual one. -/
def url (s : Shelf) : Except Fault Json × Shelf :=
  match s.get urlKey with
  | (.error f, s) => (.error f, s)
  | (.ok v, s) => (.ok ((present v).getD (.text ClientConfig.localUrl)), s)

/-- Saves one of the settings, if it is given. -/
def saveOne (key : String) (value : Option Json) (s : Shelf) : Except Fault Unit × Shelf :=
  match value with
  | none => (.ok (), s)
  | some v => s.set key v

/-- Saves the settings that are given, the credential first. -/
def save (key address : Option Json) (s : Shelf) : Except Fault Unit × Shelf :=
  match saveOne apiKeyKey key s with
  | (.error f, s) => (.error f, s)
  | (.ok (), s) => saveOne urlKey address s

/-- A credential as it may be shown: its two ends, if enough is left between
    them. -/
def mask (secret : Option String) : String :=
  match secret with
  | none => "(not set)"
  | some s =>
    let cs := s.toList
    if cs.isEmpty then "(not set)"
    else if cs.length ≤ 8 then "****"
    else String.ofList (cs.take 3 ++ ['.', '.', '.'] ++ cs.drop (cs.length - 4))

end SpanQuest.Settings
