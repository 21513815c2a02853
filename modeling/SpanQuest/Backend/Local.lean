/-
  The local backend: generation without a credential.

  * `Local.body` is what a prompt is sent as;
  * `Local.textOf` takes the text out of a response;
  * `Local.reasonOf` takes the reason out of an error response, and
    `Local.lacksModel` tells from it that the model is not installed.
-/
import SpanQuest.Backend.Exchange
import SpanQuest.Json.Display
import SpanQuest.Json.Reader
import SpanQuest.Text.LetterCase

namespace SpanQuest.Backend.Local

/-- The name of the backend in messages. -/
def name : String := "Ollama"

/-- Where generation is asked for, below an address. -/
def path : String := "/api/generate"

/-- What a prompt is sent as. -/
def body (model temperature prompt : Json) : Json :=
  .object [
    ("model", model),
    ("prompt", prompt),
    ("stream", .bool false),
    ("temperature", temperature)]

/-- The text of a response. -/
def textOf (body : Json) : Json :=
  (body.member "response").orElse (.text "")

/-- The reason of an error response, if it gives one: its error, where the body
    is text that is an object. -/
def reasonOf (body : String) : Except Fault (Option String) :=
  match Json.read body with
  | .error (.tooManyDigits count) => .error (.digitLimit count)
  | .error (.malformed ..) => .ok none
  | .ok v =>
    let error := v.member "error"
    .ok (if error.isTruthy then some error.display else none)

/-- The part stands somewhere in the text. -/
def contains (part : List Char) : List Char → Bool
  | [] => part.isEmpty
  | c :: cs => part.isPrefixOf (c :: cs) || contains part cs

/-- The message tells that the model is not installed, in letters of either
    case. -/
def lacksModel (message : String) : Bool :=
  let lowered := message.toList.map Text.lowerAsciiChar
  contains "model".toList lowered && contains "not found".toList lowered

end SpanQuest.Backend.Local
