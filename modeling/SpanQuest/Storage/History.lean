/-
  The history: the questions that were answered, newest first.

  It is one text in a store: an array of objects with a question and the
  milliseconds at which it was asked.  Reading is lenient: a text that is no
  array is empty, and an item without a question is passed over; but a
  timestamp that is there has to be one.  `append` puts a question in front
  and drops what is beyond the limit.
-/
import SpanQuest.Front
import SpanQuest.Json.Printer
import SpanQuest.Number.Loose
import SpanQuest.Search.Moment
import SpanQuest.Storage.Shelf
import SpanQuest.Trouble.Integral

namespace SpanQuest

/-- A question that was answered, and when it was asked in milliseconds. -/
structure HistoryEntry where
  question : String
  timestamp : Int
  deriving DecidableEq, Repr, Inhabited

namespace HistoryEntry

/-- An entry as an object. -/
def toJson (e : HistoryEntry) : Json :=
  .object [("question", .text e.question), ("timestamp", .int e.timestamp)]

/-! ## Timestamps -/

/-- The integer that a stored timestamp stands for; one that does not count as
    present stands for zero. -/
def timestampOf (v : Json) : Except Fault Int :=
  if v.isTruthy then v.toInteger else .ok 0

/-- The entry that a stored item is; none if the item has no question. -/
def ofItem (item : Json) : Except Fault (Option HistoryEntry) :=
  match item.member "question" with
  | .text question =>
    (timestampOf (item.member "timestamp")).map fun t => some ⟨question, t⟩
  | _ => .ok none

/-- The entries that stored items are; the first bad timestamp fails them. -/
def ofItems : List Json → Except Fault (List HistoryEntry)
  | [] => .ok []
  | item :: rest =>
    match ofItem item with
    | .error f => .error f
    | .ok found => (ofItems rest).map (found.toList ++ ·)

/-! ## Checking what is appended -/

/-- The integer that a text denotes, loosely written. -/
def integerText (s : String) : Except IssueKind Int :=
  match Number.readLooseInteger s with
  | .value n => .ok n
  | .tooLong _ => .error .longInteger
  | .malformed => .error .unreadableInteger

/-- The integer that a given timestamp is.  A double stands for one if it is
    whole and its size is below `2 ^ 63`. -/
def integerOf : Json → Except IssueKind Int
  | .int n => .ok n
  | .bool b => .ok (if b then 1 else 0)
  | .double x =>
    match x.truncate? with
    | none => .error .wantsFinite
    | some n =>
      if !x.isWhole then .error .fractional
      else if n.natAbs < 9223372036854775808 then .ok n
      else .error .longInteger
  | .text s => integerText s
  | _ => .error .wantsInteger

/-- The entry of a given question and timestamp. -/
def check (question timestamp : Json) : Except Rejection HistoryEntry :=
  match question, integerOf timestamp with
  | .text q, .ok t => .ok ⟨q, t⟩
  | q, t =>
    let first := if q.text?.isSome then [] else [⟨.wantsText, ["question"]⟩]
    let second := match t with
      | .ok _ => []
      | .error kind => [⟨kind, ["timestamp"]⟩]
    .error ⟨"HistoryEntry", first ++ second⟩

end HistoryEntry

/-- How many questions a history holds. -/
inductive HistoryLimit where
  | unlimited
  /-- The newest, or all but the oldest if the number is negative. -/
  | newest (n : Int)
  /-- A value of a kind that limits nothing. -/
  | unusable
  deriving DecidableEq, Repr, Inhabited

namespace HistoryLimit

/-- The limit that a value gives; null gives none. -/
def ofJson : Json → HistoryLimit
  | .null => .unlimited
  | .int n => .newest n
  | .bool b => .newest (if b then 1 else 0)
  | _ => .unusable

/-- What is within the limit. -/
def cut {α : Type} (limit : HistoryLimit) (xs : List α) : Except Fault (List α) :=
  match limit with
  | unlimited => .ok xs
  | newest n => .ok (front n xs)
  | unusable => .error .badLimit

end HistoryLimit

/-- Where a history is kept, and how many questions it holds. -/
structure History where
  key : String
  limit : HistoryLimit
  deriving DecidableEq, Repr, Inhabited

namespace History

/-- The key that a history is kept under unless said otherwise. -/
def defaultKey : String := "jaeger-ai-history"

/-- How many questions a history holds unless said otherwise. -/
def defaultLimit : HistoryLimit := .newest 10

/-- The history at its usual place. -/
def usual : History := ⟨defaultKey, defaultLimit⟩

/-- The entries that a stored value holds. -/
def decode (stored : Option Json) : Except Fault (List HistoryEntry) :=
  match stored with
  | none => .ok []
  | some v =>
    if !v.isTruthy then .ok []
    else
      match v with
      | .text s =>
        match Json.read s with
        | .error (.tooManyDigits count) => .error (.digitLimit count)
        | .error (.malformed ..) => .ok []
        | .ok (.array items) => HistoryEntry.ofItems items
        | .ok _ => .ok []
      | other => .error (.notJsonText other.kindName)

/-- The text that entries are stored as. -/
def encode (entries : List HistoryEntry) : String :=
  Json.render (.array (entries.map HistoryEntry.toJson))

/-- The entries, newest first. -/
def entries (h : History) (s : Shelf) : Except Fault (List HistoryEntry) × Shelf :=
  match s.get h.key with
  | (.error f, s) => (.error f, s)
  | (.ok stored, s) => (decode stored, s)

/-- The entries after one more, within the limit. -/
def extend (h : History) (entry : HistoryEntry) (entries : List HistoryEntry) :
    Except Fault (List HistoryEntry) :=
  h.limit.cut (entry :: entries)

/-- Puts an entry in front. -/
def push (h : History) (entry : HistoryEntry) (s : Shelf) : Except Fault Unit × Shelf :=
  match h.entries s with
  | (.error f, s) => (.error f, s)
  | (.ok entries, s) =>
    match h.extend entry entries with
    | .error f => (.error f, s)
    | .ok kept => s.set h.key (.text (encode kept))

/-- Puts a question in front, as of the given timestamp, or of now if it is
    null. -/
def append (h : History) (question timestamp : Json) (now : Moment) (s : Shelf) :
    Except Trouble HistoryEntry × Shelf :=
  let timestamp := if timestamp.isNull then .int now.historyMillis else timestamp
  match HistoryEntry.check question timestamp with
  | .error r => (.error (.rejected r), s)
  | .ok entry =>
    match h.push entry s with
    | (.error f, s) => (.error (.fault f), s)
    | (.ok (), s) => (.ok entry, s)

/-- Forgets all questions. -/
def clear (h : History) (s : Shelf) : Except Fault Unit × Shelf :=
  s.delete h.key

end History

end SpanQuest
