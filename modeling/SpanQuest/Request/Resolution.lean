/-
  Resolutions: what a question becomes.

  All callers are told the same of a resolution, in the same form.
-/
import SpanQuest.Backend.Gateway
import SpanQuest.Search.Request

namespace SpanQuest

/-- What a question becomes: the query, its filters, the reply that it was read
    from, and the request for the search. -/
structure Resolution where
  query : Query
  filters : Filters
  completion : Completion
  request : SearchRequest
  deriving DecidableEq, Repr, Inhabited

namespace Resolution

/-- A resolution as an object. -/
def toJson (t : Resolution) : Json :=
  .object [
    ("model", .text t.completion.model.name),
    ("query", t.query.toJson),
    ("filters", .object (t.filters.map fun p => (p.1, .text p.2))),
    ("search_request", t.request.toJson)]

end Resolution

end SpanQuest
