/-
  Queries: what a question asks about traces, as far as the model could tell.

  A query is in normal form: a field is absent or holds a character that is
  not blank, tags are absent or not empty, and every status that is no word
  for one is `all`.  `Query.ofParts` brings whatever stands in the fields of a
  reply into that form, and nothing there is ever refused; `Query.ofJson`
  reads a stored query, which lacks at most its question.  Only a tag with an
  integer that is too long to be written can be wrong beside that, and no text
  is read as such a value.
-/
import SpanQuest.Json.Printer
import SpanQuest.Text.Blank
import SpanQuest.Text.LetterCase
import SpanQuest.Trouble.Issue
import SpanQuest.Trouble.Shown

namespace SpanQuest

/-! ## The status -/

/-- Which traces are asked for, by how they ended. -/
inductive TraceStatus where
  | error
  | success
  | all
  deriving DecidableEq, Repr, Inhabited

namespace TraceStatus

/-- The word for a status. -/
def name : TraceStatus → String
  | error => "error"
  | success => "success"
  | all => "all"

/-- The status that a word stands for. -/
def ofName? (s : String) : Option TraceStatus :=
  if s == error.name then some error
  else if s == success.name then some success
  else if s == all.name then some all
  else none

/-- The status that a value stands for: a word in any case with blanks around
    it, else `all`. -/
def ofJson : Json → TraceStatus
  | .text s => (ofName? (Text.lowerAscii (Text.trim s))).getD all
  | _ => all

end TraceStatus

/-! ## The query -/

/-- What a question asks about traces. -/
structure Query where
  service : Option String
  operation : Option String
  minDuration : Option String
  maxDuration : Option String
  tags : Option (Mapping String)
  status : TraceStatus
  question : String
  deriving DecidableEq, Repr, Inhabited

namespace Query

/-- A text with a character that is not blank is kept as it is; any other value
    counts as absent. -/
def inkOf : Json → Option String
  | .text s => if Text.hasInk s then some s else none
  | _ => none

/-- The text of a tag: a text as it is, any other value as JSON. -/
def tagText : Json → String
  | .text s => s
  | v => v.render

/-- An object with a member gives tags; any other value counts as absent. -/
def tagsOf : Json → Option (Mapping String)
  | .object (m :: ms) => some ((m :: ms).map fun p => (p.1, tagText p.2))
  | _ => none

/-- What is wrong with tags: a tag that is no text is written as JSON, for which an
    integer may be too long. -/
def tagIssues : Json → List Issue
  | .object members => if Json.membersShowable members then [] else [⟨.unwritable, ["tags"]⟩]
  | _ => []

/-- The query with these parts, each in normal form. -/
def ofParts (service operation minDuration maxDuration tags status : Json) (question : String) :
    Query where
  service := inkOf service
  operation := inkOf operation
  minDuration := inkOf minDuration
  maxDuration := inkOf maxDuration
  tags := tagsOf tags
  status := TraceStatus.ofJson status
  question := question

/-- The first of two members that an object has, with its name. -/
def firstMember? (a b : String) (v : Json) : Option (String × Json) :=
  match v.member? a with
  | some x => some (a, x)
  | none => (v.member? b).map fun x => (b, x)

/-- The issues of a value that should be a query, or the query: an object with
    a question.  The short name of a member goes before its long one. -/
def ofJson (v : Json) : Except (List Issue) Query :=
  match v with
  | .object _ =>
    let part := fun a b => ((firstMember? a b v).map Prod.snd).getD .null
    let issues := tagIssues (v.member "tags")
    match firstMember? "originalQuestion" "original_question" v with
    | none => .error (issues ++ [⟨.missing, ["originalQuestion"]⟩])
    | some (_, .text question) =>
      if issues.isEmpty then
        .ok (ofParts (v.member "service") (v.member "operation")
          (part "minDuration" "min_duration") (part "maxDuration" "max_duration")
          (v.member "tags") (v.member "status") question)
      else .error issues
    | some (name, _) => .error (issues ++ [⟨.wantsText, [name]⟩])
  | _ => .error [⟨.wantsObject, []⟩]

/-- The query as an object, each field under its short name. -/
def toJson (q : Query) : Json :=
  .object [
    ("service", .ofOption q.service),
    ("operation", .ofOption q.operation),
    ("minDuration", .ofOption q.minDuration),
    ("maxDuration", .ofOption q.maxDuration),
    ("tags", match q.tags with
      | some tags => .object (tags.map fun p => (p.1, .text p.2))
      | none => .null),
    ("status", .text q.status.name),
    ("originalQuestion", .text q.question)]

/-- Tags that are kept are not empty. -/
theorem ne_nil_of_tagsOf {v : Json} {tags : Mapping String} (h : tagsOf v = some tags) :
    tags ≠ [] := by
  unfold tagsOf at h
  split at h
  · injection h with h
    subst h
    simp
  · simp at h

end Query

end SpanQuest
