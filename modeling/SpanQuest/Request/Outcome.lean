/-
  Outcomes: how far the latest request has come, and how it ended.
-/
import SpanQuest.Query.Filters
import SpanQuest.Trouble

namespace SpanQuest

/-- The stages of a request. -/
inductive RequestStage where
  | idle
  | validating
  | awaitingModel
  | extracting
  | compiling
  | done
  deriving DecidableEq, Repr, Inhabited

namespace RequestStage

/-- The word for a stage. -/
def name : RequestStage → String
  | idle => "idle"
  | validating => "validating"
  | awaitingModel => "awaiting_model"
  | extracting => "extracting"
  | compiling => "compiling"
  | done => "done"

/-- All stages, in the order in which a request goes through them. -/
def all : List RequestStage := [idle, validating, awaitingModel, extracting, compiling, done]

/-- The stage that a word stands for. -/
def ofName? (s : String) : Option RequestStage :=
  all.find? fun stage => stage.name == s

end RequestStage

/-- How far a request has come, and how it ended. -/
structure Outcome where
  stage : RequestStage := .idle
  question : String := ""
  errorKind : Option String := none
  errorMessage : Option String := none
  query : Option Query := none
  filters : Option Filters := none
  deriving DecidableEq, Repr, Inhabited

namespace Outcome

/-- The request is done and nothing went wrong. -/
def succeeded (o : Outcome) : Bool :=
  o.stage == .done && o.errorKind.isNone

/-- The outcome of a request that failed. -/
def fail (o : Outcome) (f : Failure) : Outcome :=
  { o with stage := .done, errorKind := some f.kind.name, errorMessage := some f.message }

/-! ## Outcomes as values -/

/-- A text at a path, or an issue with it. -/
def checkText (path : List String) : Json → Except (List Issue) String
  | .text s => .ok s
  | _ => .error [⟨.wantsText, path⟩]

/-- A text or null at a path. -/
def checkOptionalText (path : List String) : Json → Except (List Issue) (Option String)
  | .null => .ok none
  | v => (checkText path v).map some

/-- The filters that members are: their values have to be texts. -/
def checkFilters (members : List (String × Json)) : Except (List Issue) Filters :=
  let issues := members.filterMap fun p =>
    if p.2.text?.isSome then none else some ⟨.wantsText, ["filters", p.1]⟩
  if issues.isEmpty then .ok (members.filterMap fun p => p.2.text?.map fun s => (p.1, s))
  else .error issues

/-- The issues of a check. -/
def issuesOf {α : Type} : Except (List Issue) α → List Issue
  | .ok _ => []
  | .error issues => issues

/-- The outcome that a value describes: every member that is missing has its
    default. -/
def ofJson (v : Json) : Except Rejection Outcome :=
  let stage : Except (List Issue) RequestStage :=
    match v.member? "state" with
    | none => .ok .idle
    | some (.text s) =>
      match RequestStage.ofName? s with
      | some stage => .ok stage
      | none => .error [⟨.unknownChoice, ["state"]⟩]
    | some _ => .error [⟨.unknownChoice, ["state"]⟩]
  let question := checkText ["question"] ((v.member? "question").getD (.text ""))
  let kind := checkOptionalText ["error_kind"] (v.member "error_kind")
  let message := checkOptionalText ["error_message"] (v.member "error_message")
  let query : Except (List Issue) (Option Query) :=
    match v.member "query" with
    | .null => .ok none
    | q => ((Query.ofJson q).map some).mapError fun l =>
        l.map fun i => { i with path := "query" :: i.path }
  let filters : Except (List Issue) (Option Filters) :=
    match v.member "filters" with
    | .null => .ok none
    | .object members => (checkFilters members).map some
    | _ => .error [⟨.wantsMapping, ["filters"]⟩]
  match stage, question, kind, message, query, filters with
  | .ok stage, .ok question, .ok kind, .ok message, .ok query, .ok filters =>
    .ok ⟨stage, question, kind, message, query, filters⟩
  | _, _, _, _, _, _ =>
    .error ⟨"QueryOutcome", issuesOf stage ++ issuesOf question ++ issuesOf kind ++
      issuesOf message ++ issuesOf query ++ issuesOf filters⟩

end Outcome

end SpanQuest
