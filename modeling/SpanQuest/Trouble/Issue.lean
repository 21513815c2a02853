/-
  Issues: what is wrong with the shape of a value that someone handed in.

  An issue has a kind and the path of the place that it is about.  The values
  that are checked are the fields of a query, a configuration, an outcome, a
  history entry, and the body of a request over HTTP.
-/
namespace SpanQuest

/-- What can be wrong with a place of a value. -/
inductive IssueKind where
  | missing
  | wantsText
  | wantsMapping
  /-- The whole value should be an object. -/
  | wantsObject
  /-- A text that is none of the allowed ones. -/
  | unknownChoice
  | wantsInteger
  /-- A number with a fraction, where an integer is wanted. -/
  | fractional
  /-- A text that is no integer. -/
  | unreadableInteger
  /-- A text of more digits than an integer may have. -/
  | longInteger
  /-- A number that is infinite or none. -/
  | wantsFinite
  /-- A value that cannot be written as JSON. -/
  | unwritable
  /-- The body of a request is no JSON. -/
  | unreadableBody
  /-- The body of a request is JSON, but no object. -/
  | bodyNotObject
  deriving DecidableEq, Repr

/-- The name of a kind of issue, as answers give it. -/
def IssueKind.name : IssueKind → String
  | missing => "missing"
  | wantsText => "string_type"
  | wantsMapping => "dict_type"
  | wantsObject => "model_type"
  | unknownChoice => "enum"
  | wantsInteger => "int_type"
  | fractional => "int_from_float"
  | unreadableInteger => "int_parsing"
  | longInteger => "int_parsing_size"
  | wantsFinite => "finite_number"
  | unwritable => "value_error"
  | unreadableBody => "json_invalid"
  | bodyNotObject => "model_attributes_type"

/-- Something wrong at a place. -/
structure Issue where
  kind : IssueKind
  path : List String
  deriving DecidableEq, Repr

/-- All that is wrong with a value of the type `subject`, in order. -/
structure Rejection where
  subject : String
  issues : List Issue
  deriving DecidableEq, Repr

/-- The first line of a rejection. -/
def Rejection.message (r : Rejection) : String :=
  let n := r.issues.length
  let noun := if n == 1 then "error" else "errors"
  s!"{n} validation {noun} for {r.subject}"

end SpanQuest
