/-
  The registry of prompts: templates by name, each with a version.

  The registry is read from a file of prompts when it is first used.  If that
  fails, the next use tries again, but the prompts before the one that failed
  are there.  A prompt that is registered takes the place of one that has its
  name.

  * `Registry.render` fills in a prompt;
  * `Registry.validate` lists what is wrong with the prompts.
-/
import SpanQuest.Json.Display
import SpanQuest.Prompt.Bundled
import SpanQuest.Prompt.File
import SpanQuest.Prompt.Template
import SpanQuest.Trouble
import SpanQuest.Trouble.Integral

namespace SpanQuest.Prompt

/-- A template and its version.  Either may be a value of another kind than it
    should. -/
structure Entry where
  template : Json
  version : Json
  deriving Inhabited

/-- Where a registry is read from: a file that is missing, one that cannot be
    read, or one with a value. -/
inductive Source where
  | missing
  | flawed (fault : Fault)
  | content (v : Json)
  deriving Inhabited

/-- Prompts by name. -/
structure Registry where
  source : Source
  entries : Mapping Entry := []
  loaded : Bool := false
  deriving Inhabited

/-- The source that is a file with a value. -/
def Source.ofValue (v : Json) : Source :=
  match File.flaw? v with
  | some fault => .flawed fault
  | none => .content (File.plainValue v)

namespace Registry

/-- The registry of the prompts that come with the program. -/
def bundled : Registry where
  source := .content (.object [("prompts", .object [(parseQuestion,
    .object [("version", .int 1), ("template", .text bundledTemplate)])])])

/-! ## Reading -/

/-- The prompt that a member of the file describes; none if it describes none. -/
def entryOf : Json → Except Fault (Option Entry)
  | .object members =>
    let version := (Mapping.get? "version" members).getD (.int 1)
    let template := (Mapping.get? "template" members).getD (.text "")
    version.toInteger.map fun n => some ⟨template, .int n⟩
  | .text s => .ok (some ⟨.text s, .int 1⟩)
  | _ => .ok none

/-- Takes in the prompts of a file one after another, until one fails. -/
def takeIn (entries : Mapping Entry) : List (String × Json) → Option Fault × Mapping Entry
  | [] => (none, entries)
  | (name, v) :: rest =>
    match entryOf v with
    | .error f => (some f, entries)
    | .ok none => takeIn entries rest
    | .ok (some e) => takeIn (Mapping.put name e entries) rest

/-- The members that describe prompts. -/
def promptsOf (v : Json) : Except Fault (List (String × Json)) :=
  if !v.isTruthy then .ok []
  else
    match v with
    | .object members =>
      let prompts := (Mapping.get? "prompts" members).getD .null
      if !prompts.isTruthy then .ok []
      else
        match prompts with
        | .object members => .ok members
        | other => .error (.noMember other.kindName "items")
    | other => .error (.noMember other.kindName "get")

/-- The registry after a use, and the fault if it could not be read. -/
def load (r : Registry) : Option Fault × Registry :=
  if r.loaded then (none, r)
  else
    match r.source with
    | .missing => (none, { r with loaded := true })
    | .flawed f => (some f, r)
    | .content v =>
      match promptsOf v with
      | .error f => (some f, r)
      | .ok members =>
        match takeIn r.entries members with
        | (some f, entries) => (some f, { r with entries := entries })
        | (none, entries) => (none, { r with entries := entries, loaded := true })

/-- An operation on the registry, once it was read. -/
def afterLoad {α : Type} (r : Registry) (run : Registry → Except Trouble α × Registry) :
    Except Trouble α × Registry :=
  match r.load with
  | (some f, r) => (.error (.fault f), r)
  | (none, r) => run r

/-! ## Operations -/

/-- The names of the prompts in order, as of what was read. -/
def sortedNames (r : Registry) : List String :=
  (Mapping.keys r.entries).mergeSort fun a b => a < b || a == b

/-- The names of the prompts in order. -/
def names (r : Registry) : Except Trouble (List String) × Registry :=
  r.afterLoad fun r => (.ok r.sortedNames, r)

/-- A list of names as messages show it. -/
def showNames (names : List String) : String :=
  (Json.array (names.map .text)).inspect

/-- The failure of a look-up. -/
def missing (name : String) (r : Registry) : Failure :=
  .promptMissing s!"Prompt '{name}' not found in registry. Available: {showNames r.sortedNames}"

/-- The prompt of a name. -/
def entry (r : Registry) (name : String) : Except Trouble Entry × Registry :=
  r.afterLoad fun r =>
    match Mapping.get? name r.entries with
    | some e => (.ok e, r)
    | none => (.error (.failure (missing name r)), r)

/-- Sets the prompt of a name. -/
def register (r : Registry) (name : String) (e : Entry) : Except Trouble Unit × Registry :=
  r.afterLoad fun r => (.ok (), { r with entries := Mapping.put name e r.entries })

/-- A template with values in its places. -/
def fillIn (template : Json) (values : Mapping String) : Except Trouble String :=
  match template with
  | .text source =>
    match Template.read? source with
    | none => .error (.failure (.promptUnusable "Invalid template syntax"))
    | some parts =>
      match Template.fill values parts with
      | .ok cs => .ok (String.ofList cs)
      | .error name =>
        .error (.failure (.promptUnusable s!"Missing template variable: {Text.quoted name} is undefined"))
  | v => .error (.fault (.templateKind v.kindName))

/-- The names that no value can be given for: they stand for the prompt and the
    registry themselves. -/
def reserved : List String := ["prompt_name", "self"]

/-- The prompt of a name with values in its places. -/
def render (r : Registry) (name : String) (values : Mapping String) :
    Except Trouble String × Registry :=
  if reserved.any fun n => Mapping.has n values then (.error (.fault .badArguments), r)
  else
    match r.entry name with
    | (.error t, r) => (.error t, r)
    | (.ok e, r) => (fillIn e.template values, r)

/-- The prompt for a question. -/
def questionPrompt (r : Registry) (question : String) : Except Trouble String × Registry :=
  r.render parseQuestion [("question", question)]

/-! ## Validation -/

/-- The prompts that have to be there. -/
def required : List String := [parseQuestion]

/-- What is wrong with a prompt. -/
def complaintsOf (name : String) (e : Entry) : Except Fault (List String) :=
  match e.template with
  | .text source =>
    let blank := if Text.allBlank source then [s!"Prompt '{name}' has empty template"] else []
    let malformed :=
      if (Template.read? source).isNone then [s!"Prompt '{name}' has invalid Jinja2 syntax"] else []
    .ok (blank ++ malformed)
  | v => .error (.noMember v.kindName "strip")

/-- What is wrong with prompts, one after another. -/
def complaints : List (String × Entry) → Except Fault (List String)
  | [] => .ok []
  | (name, e) :: rest =>
    match complaintsOf name e with
    | .error f => .error f
    | .ok said => (complaints rest).map (said ++ ·)

/-- What is wrong with the prompts: required ones that are missing, blank
    templates and malformed ones. -/
def validate (r : Registry) : Except Trouble (List String) × Registry :=
  r.afterLoad fun r =>
    let missing := required.filter fun n => !Mapping.has n r.entries
    let first := if missing.isEmpty then [] else [s!"Missing required prompts: {showNames missing}"]
    (((complaints r.entries).mapError .fault).map (first ++ ·), r)

/-- A prompt as messages show it. -/
def describe (name : String) (e : Entry) : String :=
  s!"PromptEntry(name={Text.quoted name}, version={e.version.display})"

end Registry

end SpanQuest.Prompt
