/-
  Values as messages show them.

  `display` shows a text as it is; inside an array or an object, and by
  `inspect`, it is quoted.  Null and the truth values have a capital, and a
  double that is no number or infinite is a word in small letters.
-/
import SpanQuest.Json.Value
import SpanQuest.Number.Decimal
import SpanQuest.Text.Quoted

namespace SpanQuest.Json

mutual

/-- A value with its texts quoted. -/
def inspectChars : Json → List Char
  | null => "None".toList
  | bool b => if b then "True".toList else "False".toList
  | int n => if n < 0 then '-' :: decimalDigits n.natAbs else decimalDigits n.natAbs
  | double x => x.text.toList
  | text s => Text.quotedChars s.toList
  | array [] => ['[', ']']
  | array (v :: vs) => '[' :: inspectChars v ++ inspectItems vs ++ [']']
  | object [] => ['{', '}']
  | object ((k, v) :: ms) =>
    '{' :: Text.quotedChars k.toList ++ ':' :: ' ' :: inspectChars v ++ inspectMembers ms ++ ['}']

/-- The items after the first. -/
def inspectItems : List Json → List Char
  | [] => []
  | v :: vs => ',' :: ' ' :: inspectChars v ++ inspectItems vs

/-- The members after the first. -/
def inspectMembers : List (String × Json) → List Char
  | [] => []
  | (k, v) :: ms =>
    ',' :: ' ' :: Text.quotedChars k.toList ++ ':' :: ' ' :: inspectChars v ++ inspectMembers ms

end

/-- A value with its texts quoted. -/
def inspect (v : Json) : String :=
  String.ofList (inspectChars v)

/-- A value in a message: a text as it is, anything else as `inspect` shows it. -/
def display : Json → String
  | text s => s
  | v => v.inspect

end SpanQuest.Json
