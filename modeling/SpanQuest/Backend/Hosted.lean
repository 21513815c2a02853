/-
  The hosted backend: chat completions, with a credential in a header.

  * `Hosted.body` is what a prompt is sent as, and `Hosted.bearer` the header
    of a credential;
  * `Hosted.textOf` takes the text out of a response: the content of the first
    choice's message, and the empty text where one of them is missing or empty;
  * `Hosted.reasonOf` takes the reason out of an error response.
-/
import SpanQuest.Backend.Exchange
import SpanQuest.Json.Display

namespace SpanQuest.Backend.Hosted

/-- The name of the backend in messages. -/
def name : String := "OpenAI"

/-- The most tokens of a completion. -/
def defaultMaxTokens : Nat := 500

/-- The model that is asked unless said otherwise. -/
def defaultModel : String := "gpt-3.5-turbo"

/-- Where completions are asked for, below an address. -/
def path : String := "/chat/completions"

/-- The header that carries a credential. -/
def bearer (key : Json) : String :=
  "Bearer " ++ key.display

/-- The first run of characters of a header that are not ASCII: its first
    character, its place, and the place after it. -/
def notAscii? (cs : List Char) : Option (Char × Nat × Nat) :=
  let isAscii := fun c : Char => c.toNat < 0x80
  let plain := cs.takeWhile isAscii
  match cs.dropWhile isAscii with
  | [] => none
  | c :: rest =>
    let run := (c :: rest).takeWhile fun d => !isAscii d
    some (c, plain.length, plain.length + run.length)

/-- What is wrong with a header: its characters have to be ASCII. -/
def headerFault? (header : String) : Option Fault :=
  (notAscii? header.toList).map fun (first, start, stop) => .headerNotAscii first start stop

/-- What a prompt is sent as. -/
def body (model temperature maxTokens prompt : Json) : Json :=
  .object [
    ("model", model),
    ("messages", .array [.object [("role", .text "user"), ("content", prompt)]]),
    ("temperature", temperature),
    ("max_tokens", maxTokens)]

/-- The first of the choices. -/
def firstOf : Json → Except Fault Json
  | .array (v :: _) => .ok v
  | .text s =>
    match s.toList with
    | c :: _ => .ok (.text (String.singleton c))
    | [] => .ok .null
  | .object _ => .error (.keyMissing "0")
  | v => .error (.notIndexable v.kindName)

/-- A member of what has to be an object. -/
def memberOf (name : String) : Json → Except Fault Json
  | .object members => .ok ((Mapping.get? name members).getD .null)
  | v => .error (.noMember v.kindName "get")

/-- The text of a response: the content of the first choice's message. -/
def textOf (body : Json) : Except Fault Json :=
  let choices := body.member "choices"
  if !choices.isTruthy then .ok (.text "")
  else
    match firstOf choices with
    | .error f => .error f
    | .ok choice =>
      match memberOf "message" choice with
      | .error f => .error f
      | .ok message =>
        if !message.isTruthy then .ok (.text "")
        else (memberOf "content" message).map fun v => v.orElse (.text "")

/-- The reason of an error response, if it gives one: the message of its error. -/
def reasonOf (body : Option Json) : Option String :=
  match body with
  | none => none
  | some v =>
    match v.member "error" with
    | .object members =>
      let message := (Mapping.get? "message" members).getD .null
      if message.isTruthy then some message.display else none
    | _ => none

end SpanQuest.Backend.Hosted
