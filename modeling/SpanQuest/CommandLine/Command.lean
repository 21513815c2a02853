/-
  Commands: what a user can ask for on the command line.

  * `ask` resolves a question;
  * `history` shows the questions that were answered, or forgets them;
  * `settings` shows or saves what is known about the backends;
  * `serve` starts the service.

  `Command.read?` is the command of a command line; none if there is no such
  command, an argument is missing or too many, a number is none, or a path
  holds the NUL character.
-/
import SpanQuest.CommandLine.Options
import SpanQuest.Number.Loose
import SpanQuest.Storage.Disk

namespace SpanQuest.CommandLine

/-- What goes with a question. -/
structure AskOptions where
  model : Option String
  apiKey : Option String
  baseUrl : Option String
  localModel : Option String
  timeout : Option Double
  asJson : Bool
  store : Option String
  envFile : Option String
  deriving DecidableEq, Repr, Inhabited

/-- What a user asks for. -/
inductive Command where
  | ask (question : String) (options : AskOptions)
  | history (clear asJson : Bool) (store : Option String)
  | settings (apiKey url store : Option String)
  | serve (host : Option String) (portNumber : Option Int) (envFile : Option String)
  deriving DecidableEq, Repr, Inhabited

namespace Command

/-- An option that wants a value. -/
def valued (name : String) (spellings : List String) : OptionRule := ⟨name, spellings, true⟩

/-- An option that is there or not. -/
def plain (name : String) (spellings : List String) : OptionRule := ⟨name, spellings, false⟩

/-- The options of `ask`. -/
def askRules : List OptionRule := [
  valued "model" ["--model", "-m"],
  valued "api-key" ["--api-key"],
  valued "base-url" ["--base-url"],
  valued "ollama-model" ["--ollama-model"],
  valued "timeout" ["--timeout", "-t"],
  plain "json" ["--json", "-j"],
  valued "store" ["--store"],
  valued "env-file" ["--env-file"]]

/-- The options of `history`. -/
def historyRules : List OptionRule := [
  plain "clear" ["--clear"],
  plain "json" ["--json", "-j"],
  valued "store" ["--store"]]

/-- The options of `settings`. -/
def settingsRules : List OptionRule := [
  valued "api-key" ["--api-key"],
  valued "ollama-url" ["--ollama-url"],
  valued "store" ["--store"]]

/-- The options of `serve`. -/
def serveRules : List OptionRule := [
  valued "host" ["--host", "-H"],
  valued "port-number" ["--port", "-p"],
  valued "env-file" ["--env-file"]]

/-- The number of an option: none if it is not given, and nothing at all if it
    is given and is no number. -/
def number? {α : Type} (o : Options) (name : String) (read : String → Option α) :
    Option (Option α) :=
  match o.value? name with
  | none => some none
  | some raw => (read raw).map some

/-- The path of an option: none if it is not given, and nothing at all if it is
    given and holds the NUL character. -/
def path? (o : Options) (name : String) : Option (Option String) :=
  match o.value? name with
  | none => some none
  | some s => if Path.hasNul s then none else some (some s)

/-- The command `ask` of its arguments. -/
def readAsk? (arguments : List String) : Option Command :=
  match Options.read? askRules arguments with
  | some o =>
    match o.others, number? o "timeout" Number.readLooseDouble?, path? o "store",
        path? o "env-file" with
    | [question], some timeout, some store, some envFile => some (.ask question {
        model := o.value? "model"
        apiKey := o.value? "api-key"
        baseUrl := o.value? "base-url"
        localModel := o.value? "ollama-model"
        timeout := timeout
        asJson := o.has "json"
        store := store
        envFile := envFile })
    | _, _, _, _ => none
  | none => none

/-- The command `history` of its arguments. -/
def readHistory? (arguments : List String) : Option Command :=
  match Options.read? historyRules arguments with
  | some ⟨given, []⟩ =>
    let o : Options := ⟨given, []⟩
    (path? o "store").map fun store => .history (o.has "clear") (o.has "json") store
  | _ => none

/-- The command `settings` of its arguments. -/
def readSettings? (arguments : List String) : Option Command :=
  match Options.read? settingsRules arguments with
  | some ⟨given, []⟩ =>
    let o : Options := ⟨given, []⟩
    (path? o "store").map fun store => .settings (o.value? "api-key") (o.value? "ollama-url") store
  | _ => none

/-- The command `serve` of its arguments. -/
def readServe? (arguments : List String) : Option Command :=
  match Options.read? serveRules arguments with
  | some ⟨given, []⟩ =>
    let o : Options := ⟨given, []⟩
    match number? o "port-number" Number.readLooseInteger?, path? o "env-file" with
    | some portNumber, some envFile => some (.serve (o.value? "host") portNumber envFile)
    | _, _ => none
  | _ => none

/-- The command of a command line.  Two dashes before it count for nothing. -/
def read? (arguments : List String) : Option Command :=
  let arguments := match arguments with
    | "--" :: rest => rest
    | all => all
  match arguments with
  | "ask" :: rest => readAsk? rest
  | "history" :: rest => readHistory? rest
  | "settings" :: rest => readSettings? rest
  | "serve" :: rest => readServe? rest
  | _ => none

/-- The file of variables that a command names. -/
def envFile? : Command → Option String
  | .ask _ o => o.envFile
  | .serve _ _ envFile => envFile
  | .history .. | .settings .. => none

/-- The store that a command names. -/
def store? : Command → Option String
  | .ask _ o => o.store
  | .history _ _ store => store
  | .settings _ _ store => store
  | .serve .. => none

end Command

end SpanQuest.CommandLine
