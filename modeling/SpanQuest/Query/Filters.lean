/-
  Filters: a query in the terms of the trace search.

  The filters stand in a fixed order, and a field that is absent has none.
  Tags and status share one filter: the tags as `key="value"` one blank apart,
  then the marker of the status.
-/
import SpanQuest.Query

namespace SpanQuest

/-- The filters of a search, by name. -/
abbrev Filters := Mapping String

/-- The tag by which the search tells the status of a trace. -/
def TraceStatus.marker? : TraceStatus → Option String
  | .error => some "otel.status_code=\"ERROR\""
  | .success => some "otel.status_code=\"OK\""
  | .all => none

namespace Filters

/-- A tag in the terms of the search. -/
def renderTag (key value : String) : String :=
  key ++ "=\"" ++ value ++ "\""

/-- Tags in the terms of the search, one blank apart. -/
def renderTags (tags : Mapping String) : String :=
  " ".intercalate (tags.map fun p => renderTag p.1 p.2)

/-- The parts of the filter for tags and status. -/
def tagParts (q : Query) : List String :=
  (match q.tags with
    | some tags => if tags.isEmpty then [] else [renderTags tags]
    | none => []) ++ q.status.marker?.toList

/-- A filter with a value. -/
def field (name : String) : Option String → Filters
  | some s => if s.isEmpty then [] else [(name, s)]
  | none => []

/-- The filters of a query. -/
def ofQuery (q : Query) : Filters :=
  field "service" q.service ++ field "operation" q.operation ++
    field "minDuration" q.minDuration ++ field "maxDuration" q.maxDuration ++
    (if (tagParts q).isEmpty then [] else [("tags", " ".intercalate (tagParts q))])

/-- The names of the filters, in their order. -/
def names : List String :=
  ["service", "operation", "minDuration", "maxDuration", "tags"]

theorem keys_field (name : String) (v : Option String) :
    (Mapping.keys (field name v)).Sublist [name] := by
  cases v with
  | none => simp [field, Mapping.keys]
  | some s =>
    by_cases h : s.isEmpty <;> simp [field, Mapping.keys, h]

/-- The filters of a query keep the fixed order. -/
theorem keys_ofQuery_sublist (q : Query) : (Mapping.keys (ofQuery q)).Sublist names := by
  have htags : (Mapping.keys (if (tagParts q).isEmpty then []
      else [("tags", " ".intercalate (tagParts q))] : Filters)).Sublist ["tags"] := by
    split <;> simp [Mapping.keys]
  have := ((((keys_field "service" q.service).append (keys_field "operation" q.operation)).append
    (keys_field "minDuration" q.minDuration)).append
    (keys_field "maxDuration" q.maxDuration)).append htags
  simpa [ofQuery, names, Mapping.keys] using this

end Filters

end SpanQuest
