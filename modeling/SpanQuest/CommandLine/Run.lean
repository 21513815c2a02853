/-
  Running a command: what it prints, what it leaves on the disk, how it ends.

  A failure inside `ask` is told on the error output, and the command ends
  with 1; a trouble of any other sort, and any trouble of the other commands,
  escapes the command (`Ending.escaped`).  What was printed before stays.

  The backend is a function from what is posted to what comes back before the
  deadline, if anything.
-/
import SpanQuest.CommandLine.Command
import SpanQuest.Http.Service
import SpanQuest.Text.ControlSequence

namespace SpanQuest.CommandLine

open Backend

/-- What a command finds: the disk, the environment, the time. -/
structure World where
  disk : Disk
  environment : Environment
  now : Moment
  deriving Inhabited

/-- Where a service listens. -/
structure Serving where
  host : String
  portNumber : Int
  logLevel : String
  deriving DecidableEq, Repr, Inhabited

/-- How a command ends. -/
structure Ending where
  exitCode : Nat := 0
  out : String := ""
  err : String := ""
  /-- A trouble that the command did not catch. -/
  escaped : Option Trouble := none
  posts : List Post := []
  serving : Option Serving := none
  disk : Disk
  deriving Inhabited

namespace Ending

/-- The end of a command that is wrongly used. -/
def misused (disk : Disk) : Ending := { exitCode := 2, disk := disk }

/-- The end of a command that a trouble escapes. -/
def escape (disk : Disk) (out : String) (t : Trouble) : Ending :=
  { exitCode := 1, out := out, escaped := some t, disk := disk }

/-- Lines as they are printed: without control sequences, each with its end. -/
def printed (lines : List String) : String :=
  String.join (lines.map fun l => String.ofList (Text.dropSequences l.toList) ++ "\n")

/-- The end of a question that a trouble befell: a failure is told. -/
def complain (disk : Disk) (posts : List Post) : Trouble → Ending
  | .failure f =>
    { exitCode := 1, err := printed [s!"Error ({f.kind.name}): {f.message}"], posts := posts,
      disk := disk }
  | t => { escape disk "" t with posts := posts }

end Ending

/-! ## What is printed -/

/-- A line of one character, as wide as the page. -/
def rule (c : Char) : String :=
  String.ofList (List.replicate 60 c)

/-- A text in a column of twelve. -/
def column (s : String) : String :=
  String.ofList (s.toList ++ List.replicate (12 - s.toList.length) ' ')

/-- A name and its value. -/
def field (name value : String) : String :=
  s!"   {column name} {value}"

/-- The names of a request's parts that are shown, with their values. -/
def requestFields (r : SearchRequest) : List (String × String) := [
  ("service", r.service),
  ("operation", r.operation),
  ("start", SearchRequest.showInt r.start),
  ("end", SearchRequest.showInt r.stop),
  ("limit", r.limit),
  ("lookback", r.lookback)]

/-- A resolution, on a page. -/
def page (question : String) (t : Resolution) : List String :=
  ["", rule '=', s!"🔎 tracequery [{t.completion.model.name}]", rule '=',
    s!"   Question: {question}"] ++
  (if t.filters.isEmpty then ["   (no filters extracted, search would match all traces)"] else []) ++
  (t.filters.map fun p => field p.1 p.2) ++
  (if t.query.status = .all then [] else [field "status" t.query.status.name]) ++
  [rule '-', "   Search request:"] ++
  ((requestFields t.request).map fun p => field p.1 p.2) ++
  [rule '=']

/-! ## The files of a command -/

/-- The path of the store that an option names, or the profile. -/
def storePath (p : Profile) (store : Option String) : Path :=
  .ofText (store.getD p.storePath)

/-- The store that an option names, or the profile. -/
def shelfOf (w : World) (p : Profile) (store : Option String) : Shelf :=
  ⟨.file (storePath p store) none, w.disk⟩

/-- The path that an option names, as a file of variables. -/
def fileAsked (envFile : Option String) : Option String :=
  envFile.map fun s => (Path.ofText s).text

/-- The files of variables that a command may read. -/
def variableFiles (environment : Environment) (c : Command) : List Path :=
  match Profile.candidates environment (fileAsked c.envFile?) with
  | .ok files => files.map (·.path)
  | .error _ => []

/-- The store that a command uses, if its profile can be read. -/
def storeOf? (w : World) (c : Command) : Option Path :=
  match Profile.load w.disk w.environment (fileAsked c.envFile?) with
  | .ok (p, _) => some (storePath p c.store?)
  | .error _ => none

/-! ## The commands -/

/-- A number that is given and not zero, else another. -/
def orDouble (given : Option Double) (other : Double) : Double :=
  match given with
  | some x => if x.isZero then other else x
  | none => other

/-- An integer that is given and not zero, else another. -/
def orInt (given : Option Int) (other : Int) : Int :=
  match given with
  | some n => if n = 0 then other else n
  | none => other

/-- The events of a call whose post got this answer. -/
def eventsOf (now : Moment) : Option Answer → DeskEvent
  | some answer => .answer 0 answer now
  | none => .expire 0

/-- The result of the only call, and what was posted for it. -/
def resultOf (effects : List DeskEffect) : Option (Except Trouble Resolution) :=
  effects.findSome? fun
    | .finish _ r => some r
    | _ => none

/-- What a desk posted. -/
def postsOf (effects : List DeskEffect) : List Post :=
  effects.filterMap fun
    | .send _ post => some post
    | _ => none

/-- Asks a fresh desk, and lets the backend answer. -/
def consult (desk : Desk) (question : String) (config : ClientConfig) (now : Moment)
    (respond : Post → Option Answer) : Desk × List DeskEffect :=
  let (desk, asked) := desk.step (.ask 0 (.text question) config)
  let (desk, told) := desk.run ((postsOf asked).map fun post => eventsOf now (respond post))
  (desk, asked ++ told)

/-- Resolves a question. -/
def ask (w : World) (question : String) (o : AskOptions) (respond : Post → Option Answer) : Ending :=
  match Profile.load w.disk w.environment (fileAsked o.envFile) with
  | .error t => .complain w.disk [] t
  | .ok (p, _) =>
    let overrides : Overrides :=
      ⟨.ofOption o.model, .ofOption o.apiKey, .ofOption o.baseUrl, .ofOption o.localModel⟩
    match p.clientConfig overrides (shelfOf w p o.store) with
    | (.error t, _) => .complain w.disk [] t
    | (.ok config, shelf) =>
      match Desk.opened (.after (orDouble o.timeout p.timeout)) (.text p.lookback) (.int p.limit)
          (some .usual) false .bundled shelf with
      | .error t => .complain w.disk [] t
      | .ok desk =>
        let (desk, effects) := consult desk question config w.now respond
        let disk := desk.shelf.disk
        let posts := postsOf effects
        match resultOf effects with
        | some (.error t) => .complain disk posts t
        | some (.ok t) =>
          let lines := if o.asJson then [t.toJson.renderIndented] else page question t
          { out := Ending.printed lines, posts := posts, disk := disk }
        | none => { posts := posts, disk := disk }

/-- An entry of the history on a line, with its time of day. -/
def entryLine (e : HistoryEntry) : Except Fault String :=
  (Moment.timeOfDay e.timestamp).map fun time => s!"   {time}  {e.question}"

/-- The lines of entries up to the first that has no time of day, and the fault
    of that one. -/
def entryLines : List HistoryEntry → List String × Option Fault
  | [] => ([], none)
  | e :: rest =>
    match entryLine e with
    | .error f => ([], some f)
    | .ok line =>
      let (lines, fault) := entryLines rest
      (line :: lines, fault)

/-- Shows the entries of the history. -/
def showEntries (disk : Disk) (asJson : Bool) (entries : List HistoryEntry) : Ending :=
  if asJson then
    { out := Ending.printed [(Json.array (entries.map HistoryEntry.toJson)).renderIndented], disk := disk }
  else if entries.isEmpty then { out := Ending.printed ["No recent queries"], disk := disk }
  else
    match entryLines entries with
    | (lines, none) => { out := Ending.printed lines, disk := disk }
    | (lines, some f) => .escape disk (Ending.printed lines) (.fault f)

/-- Shows the history, or forgets it. -/
def history (w : World) (clear asJson : Bool) (store : Option String) : Ending :=
  match Profile.load w.disk w.environment none with
  | .error t => .escape w.disk "" t
  | .ok (p, _) =>
    let shelf := shelfOf w p store
    if clear then
      match History.usual.clear shelf with
      | (.error f, shelf) => .escape shelf.disk "" (.fault f)
      | (.ok (), shelf) => { out := Ending.printed ["✅ History cleared"], disk := shelf.disk }
    else
      match History.usual.entries shelf with
      | (.error f, shelf) => .escape shelf.disk "" (.fault f)
      | (.ok entries, shelf) => showEntries shelf.disk asJson entries

/-- Shows the settings of a store. -/
def showSettings (shelf : Shelf) : Ending :=
  match Settings.apiKey shelf with
  | (.error f, shelf) => .escape shelf.disk "" (.fault f)
  | (.ok key, shelf) =>
    let first := s!"   OpenAI key:  {Settings.mask (key.map Json.display)}"
    match Settings.url shelf with
    | (.error f, shelf) => .escape shelf.disk (Ending.printed [first]) (.fault f)
    | (.ok url, shelf) => { out := Ending.printed [first, s!"   Ollama URL:  {url.display}"], disk := shelf.disk }

/-- Shows the settings, or saves what is given. -/
def settings (w : World) (apiKey url store : Option String) : Ending :=
  match Profile.load w.disk w.environment none with
  | .error t => .escape w.disk "" t
  | .ok (p, _) =>
    let shelf := shelfOf w p store
    if apiKey.isSome || url.isSome then
      match Settings.save (apiKey.map .text) (url.map .text) shelf with
      | (.error f, shelf) => .escape shelf.disk "" (.fault f)
      | (.ok (), shelf) => { out := Ending.printed ["✅ Settings saved successfully"], disk := shelf.disk }
    else showSettings shelf

/-- What a service says of itself when it starts. -/
def banner (p : Profile) (s : Serving) : List String := [
  "",
  "🔎 tracequery API Server",
  s!"   http://{s.host}:{s.portNumber}",
  s!"   Model: {p.model} | Timeout: {p.timeout.brief}s",
  "   Endpoints: /v1/ask, /v1/history, /health",
  rule '=',
  ""]

/-- Starts the service. -/
def serve (w : World) (host : Option String) (portNumber : Option Int) (envFile : Option String) :
    Ending :=
  match Profile.load w.disk w.environment (fileAsked envFile) with
  | .error t => .escape w.disk "" t
  | .ok (p, _) =>
    let serving : Serving :=
      ⟨ClientConfig.orElseText host p.host, orInt portNumber p.portNumber, p.logLevel⟩
    let out := Ending.printed (banner p serving)
    match Http.Service.opened p w.disk with
    | .error t => .escape w.disk out t
    | .ok _ => { out := out, serving := some serving, disk := w.disk }

/-- Runs a command line. -/
def run (w : World) (arguments : List String) (respond : Post → Option Answer) : Ending :=
  match Command.read? arguments with
  | none => .misused w.disk
  | some (.ask question o) => ask w question o respond
  | some (.history clear asJson store) => history w clear asJson store
  | some (.settings apiKey url store) => settings w apiKey url store
  | some (.serve host portNumber envFile) => serve w host portNumber envFile

end SpanQuest.CommandLine
