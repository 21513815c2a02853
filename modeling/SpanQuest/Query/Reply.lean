/-
  Replies: the query inside the free text that a model answers with.

  * `locate?` finds the text that should be JSON: what stands in the first
    fenced block that is marked as JSON and closed, else what stands from the
    first opening brace to the last closing one;
  * `objectOf` reads it as an object;
  * `queryOf` makes the query of it.  The question is the caller's: whatever
    the model says it was does not count.
-/
import SpanQuest.Json.Reader
import SpanQuest.Query
import SpanQuest.Trouble

namespace SpanQuest.Reply

/-! ## Locating -/

/-- What follows `mark` at the front. -/
def stripMark? : List Char → List Char → Option (List Char)
  | [], cs => some cs
  | _ :: _, [] => none
  | m :: ms, c :: cs => if m == c then stripMark? ms cs else none

/-- The text before and after the first appearance of `mark`. -/
def splitAtMark? (mark : List Char) : List Char → Option (List Char × List Char)
  | [] => (stripMark? mark []).map fun rest => ([], rest)
  | c :: cs =>
    match stripMark? mark (c :: cs) with
    | some rest => some ([], rest)
    | none => (splitAtMark? mark cs).map fun p => (c :: p.1, p.2)

/-- The mark that opens a block of JSON. -/
def openFence : List Char := ['`', '`', '`', 'j', 's', 'o', 'n']

/-- The mark that closes a block. -/
def closeFence : List Char := ['`', '`', '`']

/-- The text without one line end at its front. -/
def dropFirstLineEnd : List Char → List Char
  | '\n' :: cs => cs
  | cs => cs

/-- The text without one line end at its end. -/
def dropLastLineEnd (cs : List Char) : List Char :=
  (dropFirstLineEnd cs.reverse).reverse

/-- The inside of the first block of JSON that is closed, without the line ends
    next to its marks. -/
def fenced? (cs : List Char) : Option (List Char) :=
  match splitAtMark? openFence cs with
  | none => none
  | some (_, inside) =>
    (splitAtMark? closeFence inside).map fun p => dropLastLineEnd (dropFirstLineEnd p.1)

/-- What stands from the first opening brace to the last closing one. -/
def braced? (cs : List Char) : Option (List Char) :=
  let inner := cs.dropWhile (· != '{')
  let span := (inner.reverse.dropWhile (· != '}')).reverse
  if span.isEmpty then none else some span

/-- The part of a reply that should be JSON. -/
def locate? (cs : List Char) : Option (List Char) :=
  match fenced? cs with
  | some span => some span
  | none => braced? cs

/-- The part of a reply that should be JSON. -/
def locate (reply : String) : Except Failure String :=
  match locate? reply.toList with
  | some span => .ok (String.ofList span)
  | none => .error (.unusableReply (.text "no JSON object found") reply)

/-! ## Reading -/

/-- The object in a reply. -/
def objectOf (reply : String) : Except Trouble Json :=
  match locate reply with
  | .error f => .error (.failure f)
  | .ok span =>
    match Json.read span with
    | .error (.tooManyDigits count) => .error (.fault (.digitLimit count))
    | .error e => .error (.failure (.unusableReply (.text e.message) reply))
    | .ok (.object members) => .ok (.object members)
    | .ok v =>
      .error (.failure (.unusableReply (.text s!"expected a JSON object, got {v.kindName}") reply))

/-- The query in a reply to a question. -/
def queryOf (reply question : String) : Except Trouble Query :=
  (objectOf reply).map fun v =>
    Query.ofParts (v.member "service") (v.member "operation") (v.member "minDuration")
      (v.member "maxDuration") (v.member "tags") (v.member "status") question

end SpanQuest.Reply
