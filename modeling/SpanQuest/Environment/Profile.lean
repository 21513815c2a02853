/-
  Profiles: how the environment configures the program.

  `Profile.load` reads the first file of variables that there is and then the
  variables.  What a profile says about every request are its `Standing`
  values, and `Standing.clientConfig` makes the configuration of one request:
  what the caller gives goes before the environment, the environment before
  the saved settings, and these before the defaults.  A value that is empty
  counts as not given.
-/
import SpanQuest.Environment.Dotenv
import SpanQuest.Number.Reading
import SpanQuest.Storage.Settings

namespace SpanQuest

/-- How the environment configures the program. -/
structure Profile where
  model : String := ModelIdentity.ollama.name
  apiKey : Option String := none
  localUrl : Option String := none
  localModel : String := ClientConfig.defaultLocalModel
  timeout : Double := .ofInt 10
  lookback : String := "1h"
  limit : Int := 20
  storePath : String := ".tracequery/store.json"
  host : String := "0.0.0.0"
  portNumber : Int := 8080
  logLevel : String := "info"
  deriving Inhabited

/-- What stands for every request unless its caller says otherwise; null where
    nothing stands.  A value that is none of the right kind is found out when a
    configuration is made of it. -/
structure Standing where
  model : Json
  apiKey : Json
  localUrl : Json
  localModel : Json
  deriving Inhabited

/-- What a caller gives for one request; null where nothing is given. -/
structure Overrides where
  model : Json := .null
  apiKey : Json := .null
  baseUrl : Json := .null
  localModel : Json := .null
  deriving Inhabited

namespace Overrides

/-- The overrides of named values; no other name is known. -/
def ofNamed (v : Json) : Except Fault Overrides :=
  let names := match v with
    | .object members => Mapping.keys members
    | _ => []
  if names.all fun n => ["model", "api_key", "base_url", "local_model"].contains n then
    .ok ⟨v.member "model", v.member "api_key", v.member "base_url", v.member "local_model"⟩
  else .error .badArguments

end Overrides

namespace Profile

/-! ## From the environment -/

/-- A variable, or a default where there is none. -/
def variableOr (env : Environment) (name other : String) : String :=
  (Mapping.get? name env).getD other

/-- A variable that is not empty. -/
def nonEmpty? (env : Environment) (name : String) : Option String :=
  (Mapping.get? name env).filter fun s => !s.isEmpty

/-- A number in a variable, or a default where it is missing or empty. -/
def numberOr {α : Type} (env : Environment) (name : String) (other : α)
    (read : String → Option α) : Except Failure α :=
  match nonEmpty? env name with
  | none => .ok other
  | some raw =>
    match read raw with
    | some x => .ok x
    | none => .error (.notANumber name raw)

/-- The profile of an environment. -/
def ofEnvironment (env : Environment) : Except Failure Profile := do
  let other : Profile := {}
  let timeout ← numberOr env "TRACEQUERY_TIMEOUT" other.timeout Number.readDouble?
  let limit ← numberOr env "TRACEQUERY_LIMIT" other.limit Number.readInteger?
  let portNumber ← numberOr env "TRACEQUERY_PORT" other.portNumber Number.readInteger?
  return {
    model := variableOr env "TRACEQUERY_MODEL" other.model
    apiKey := nonEmpty? env "OPENAI_API_KEY"
    localUrl := nonEmpty? env "OLLAMA_API_BASE"
    localModel := variableOr env "TRACEQUERY_OLLAMA_MODEL" other.localModel
    timeout := timeout
    lookback := variableOr env "TRACEQUERY_LOOKBACK" other.lookback
    limit := limit
    storePath := variableOr env "TRACEQUERY_STORE" other.storePath
    host := variableOr env "TRACEQUERY_HOST" other.host
    portNumber := portNumber
    logLevel := variableOr env "TRACEQUERY_LOG_LEVEL" other.logLevel }

/-- The variables that a profile is read from, and the one that names home. -/
def variableNames : List String := [
  "TRACEQUERY_MODEL", "OPENAI_API_KEY", "OLLAMA_API_BASE", "TRACEQUERY_OLLAMA_MODEL",
  "TRACEQUERY_TIMEOUT", "TRACEQUERY_LOOKBACK", "TRACEQUERY_LIMIT", "TRACEQUERY_STORE",
  "TRACEQUERY_HOST", "TRACEQUERY_PORT", "TRACEQUERY_LOG_LEVEL", "HOME"]

/-- A file of variables: what names it, and whether that can only name a
    directory. -/
structure VariableFile where
  path : Path
  onlyDirectory : Bool
  deriving DecidableEq, Repr, Inhabited

/-- The file of variables that a text names. -/
def VariableFile.ofText (s : String) : VariableFile where
  path := .ofText s
  onlyDirectory := match (s.splitOn "/").getLast? with
    | some last => last.isEmpty || last == "."
    | none => false

/-- The files of variables that may be read, the first that there is: the one
    that is asked for, else one in the working directory and one at home.  Home is
    what the environment names; the users of a system and their homes are not
    modelled, so that where it names none the file is looked for at the root. -/
def candidates (env : Environment) (asked : Option String) : Except Fault (List VariableFile) :=
  match asked.filter fun s => !s.isEmpty with
  | some path => .ok [.ofText path]
  | none =>
    let home := variableOr env "HOME" ""
    if home.startsWith "~" then .error .homeless
    else .ok [.ofText ".env", .ofText (home ++ "/.tracequery/.env")]

/-- The bytes of the first file that there is. -/
def firstFile? (disk : Disk) : List VariableFile → Except Fault (Option ByteArray)
  | [] => .ok none
  | file :: rest =>
    match disk.look file.path with
    | .error f => .error f
    | .ok (some (.file bytes)) =>
      if file.onlyDirectory then .error (.notDirectory file.path.text) else .ok (some bytes)
    | .ok _ => firstFile? disk rest

/-- The environment after the first file of variables was loaded into it. -/
def loadVariables (disk : Disk) (env : Environment) (asked : Option String) :
    Except Fault Environment := do
  match ← firstFile? disk (← candidates env asked) with
  | none => return env
  | some bytes =>
    match String.fromUTF8? bytes with
    | none => .error (.notText ((Text.firstMalformed? bytes).getD default))
    | some s => Dotenv.load env s

/-- The profile, and the environment that it was read from. -/
def load (disk : Disk) (env : Environment) (asked : Option String) :
    Except Trouble (Profile × Environment) := do
  let env ← (loadVariables disk env asked).mapError .fault
  let profile ← (ofEnvironment env).mapError .failure
  return (profile, env)

/-- What a profile says about every request. -/
def standing (p : Profile) : Standing :=
  ⟨.text p.model, .ofOption p.apiKey, .ofOption p.localUrl, .text p.localModel⟩

end Profile

/-! ## The configuration of a request -/

namespace Standing

/-- The configuration of a request, where `key` and `url` are what was found
    for the credential and for the address. -/
def configOf (d : Standing) (o : Overrides) (key url : Json) : Except Trouble ClientConfig :=
  ClientConfig.check (some (o.model.orElse d.model))
    (if key.isTruthy then key else .null) (url.orElse (.text ClientConfig.localUrl))
    (o.localModel.orElse d.localModel)

/-- What the caller and the environment say about the credential. -/
def givenKey (d : Standing) (o : Overrides) : Json :=
  o.apiKey.orElse d.apiKey

/-- What the caller and the environment say about the address. -/
def givenUrl (d : Standing) (o : Overrides) : Json :=
  o.baseUrl.orElse d.localUrl

/-- The saved value where none is given; the store is used only then. -/
def orSaved (given : Json) (saved : Shelf → Except Fault Json × Shelf) (s : Shelf) :
    Except Fault Json × Shelf :=
  if given.isTruthy then (.ok given, s) else saved s

/-- The saved credential, null if there is none. -/
def savedKey (s : Shelf) : Except Fault Json × Shelf :=
  match Settings.apiKey s with
  | (.error f, s) => (.error f, s)
  | (.ok v, s) => (.ok (v.getD .null), s)

/-- The configuration of a request, with the settings that a store holds. -/
def clientConfig (d : Standing) (o : Overrides) (s : Shelf) : Except Trouble ClientConfig × Shelf :=
  match orSaved (d.givenKey o) savedKey s with
  | (.error f, s) => (.error (.fault f), s)
  | (.ok key, s) =>
    match orSaved (d.givenUrl o) Settings.url s with
    | (.error f, s) => (.error (.fault f), s)
    | (.ok url, s) => (d.configOf o key url, s)

/-- The configuration of a request without saved settings. -/
def plainConfig (d : Standing) (o : Overrides) : Except Trouble ClientConfig :=
  d.configOf o (d.givenKey o) (d.givenUrl o)

end Standing

namespace Profile

/-- The configuration of a request, with the settings that a store holds. -/
def clientConfig (p : Profile) (o : Overrides) (s : Shelf) : Except Trouble ClientConfig × Shelf :=
  p.standing.clientConfig o s

end Profile

end SpanQuest
