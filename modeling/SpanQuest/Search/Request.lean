/-
  Search requests: what the trace search is asked.

  A service and an operation that the filters do not name are any, the search
  goes from a lookback before now until now, and the remaining filters are
  passed on.
-/
import SpanQuest.Query.Filters
import SpanQuest.Search.Lookback
import SpanQuest.Search.Moment
import SpanQuest.Trouble.Shown

namespace SpanQuest

/-- What the trace search is asked. -/
structure SearchRequest where
  service : String
  operation : String
  start : Int
  stop : Int
  /-- The limit as a text. -/
  limit : String
  lookback : String
  /-- The filters that are passed on, in their order. -/
  extra : Filters
  deriving DecidableEq, Repr, Inhabited

namespace SearchRequest

/-- What stands for any service and any operation. -/
def anyValue : String := "-"

/-- The value of a filter, if there is one that is not empty. -/
def filter? (name : String) (filters : Filters) : Option String :=
  match Mapping.get? name filters with
  | some s => if s.isEmpty then none else some s
  | none => none

/-- The filters that are passed on. -/
def extraNames : List String := ["minDuration", "maxDuration", "tags"]

/-- The request for these filters, as of a moment.  Any value may be the limit, as
    long as it can be shown. -/
def build (filters : Filters) (now : Moment) (lookback : Lookback) (limit : Json) :
    Except Fault SearchRequest :=
  match now.before lookback.seconds, limit.shown with
  | .error f, _ => .error f
  | .ok _, .error f => .error f
  | .ok start, .ok limit => .ok {
    service := (filter? "service" filters).getD anyValue
    operation := (filter? "operation" filters).getD anyValue
    start := start.searchMicros
    stop := now.searchMicros
    limit := limit
    lookback := lookback.given
    extra := extraNames.filterMap fun name => (filter? name filters).map fun s => (name, s) }

/-- An integer in decimal. -/
def showInt (n : Int) : String :=
  String.ofList (Json.renderInt n)

/-- The request as an object.  The start and the limit are texts, the end is a
    number. -/
def toJson (r : SearchRequest) : Json :=
  .object ([
    ("service", .text r.service),
    ("operation", .text r.operation),
    ("start", .text (showInt r.start)),
    ("end", .int r.stop),
    ("limit", .text r.limit),
    ("lookback", .text r.lookback)] ++ r.extra.map fun p => (p.1, .text p.2))

end SearchRequest

end SpanQuest
