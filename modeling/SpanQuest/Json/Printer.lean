/-
  Writing JSON, in ASCII.

  * `render` puts a value on one line, with a blank after each comma and colon;
  * `renderIndented` gives each item and member a line of its own, two blanks
    deeper than the line of its bracket; an empty array or object stays on its
    line.

  A quote and a backslash follow a backslash, the five controls that have a
  letter are that letter, and every other character that is not a visible one
  of ASCII or the space is written by its units of UTF-16.
-/
import SpanQuest.Json.Value
import SpanQuest.Number.Decimal
import SpanQuest.Text.Quoted

namespace SpanQuest.Json

/-! ## Scalars -/

/-- A unit of UTF-16 in four digits after `\u`. -/
def unitEscape (n : Nat) : List Char :=
  '\\' :: 'u' :: Text.hexDigits 4 n

/-- A character inside a text. -/
def escapeChar (c : Char) : List Char :=
  let n := c.toNat
  if c == '"' then ['\\', '"']
  else if c == '\\' then ['\\', '\\']
  else if c == '\n' then ['\\', 'n']
  else if c == '\r' then ['\\', 'r']
  else if c == '\t' then ['\\', 't']
  else if c == '\x08' then ['\\', 'b']
  else if c == '\x0c' then ['\\', 'f']
  else if 0x20 ≤ n && n < 0x7f then [c]
  else if n < 0x10000 then unitEscape n
  else
    unitEscape (0xd800 + (n - 0x10000) / 0x400) ++ unitEscape (0xdc00 + (n - 0x10000) % 0x400)

/-- A text between quotes. -/
def renderText (s : String) : List Char :=
  '"' :: s.toList.flatMap escapeChar ++ ['"']

/-- An integer. -/
def renderInt (n : Int) : List Char :=
  if n < 0 then '-' :: decimalDigits n.natAbs else decimalDigits n.natAbs

/-- A double: its shortest text, or the word for what is no number or infinite. -/
def renderDouble : Double → List Char
  | .nan => "NaN".toList
  | .infinite negative => if negative then "-Infinity".toList else "Infinity".toList
  | x => x.text.toList

/-! ## On one line -/

mutual

/-- A value on one line. -/
def renderChars : Json → List Char
  | null => "null".toList
  | bool b => if b then "true".toList else "false".toList
  | int n => renderInt n
  | double x => renderDouble x
  | text s => renderText s
  | array [] => ['[', ']']
  | array (v :: vs) => '[' :: renderChars v ++ renderItems vs ++ [']']
  | object [] => ['{', '}']
  | object ((k, v) :: ms) => '{' :: renderText k ++ ':' :: ' ' :: renderChars v ++ renderMembers ms ++ ['}']

/-- The items after the first. -/
def renderItems : List Json → List Char
  | [] => []
  | v :: vs => ',' :: ' ' :: renderChars v ++ renderItems vs

/-- The members after the first. -/
def renderMembers : List (String × Json) → List Char
  | [] => []
  | (k, v) :: ms => ',' :: ' ' :: renderText k ++ ':' :: ' ' :: renderChars v ++ renderMembers ms

end

/-- A value on one line. -/
def render (v : Json) : String :=
  String.ofList (renderChars v)

/-! ## On lines of their own -/

/-- The end of a line and the blanks before the next, at a depth. -/
def newLine (depth : Nat) : List Char :=
  '\n' :: List.replicate (2 * depth) ' '

mutual

/-- A value whose bracket stands at a depth. -/
def indentChars (depth : Nat) : Json → List Char
  | array [] => ['[', ']']
  | array (v :: vs) =>
    '[' :: newLine (depth + 1) ++ indentChars (depth + 1) v ++ indentItems (depth + 1) vs ++
      newLine depth ++ [']']
  | object [] => ['{', '}']
  | object ((k, v) :: ms) =>
    '{' :: newLine (depth + 1) ++ renderText k ++ ':' :: ' ' :: indentChars (depth + 1) v ++
      indentMembers (depth + 1) ms ++ newLine depth ++ ['}']
  | null => "null".toList
  | bool b => if b then "true".toList else "false".toList
  | int n => renderInt n
  | double x => renderDouble x
  | text s => renderText s

/-- The items after the first. -/
def indentItems (depth : Nat) : List Json → List Char
  | [] => []
  | v :: vs => ',' :: newLine depth ++ indentChars depth v ++ indentItems depth vs

/-- The members after the first. -/
def indentMembers (depth : Nat) : List (String × Json) → List Char
  | [] => []
  | (k, v) :: ms =>
    ',' :: newLine depth ++ renderText k ++ ':' :: ' ' :: indentChars depth v ++ indentMembers depth ms

end

/-- A value on lines of its own. -/
def renderIndented (v : Json) : String :=
  String.ofList (indentChars 0 v)

end SpanQuest.Json
