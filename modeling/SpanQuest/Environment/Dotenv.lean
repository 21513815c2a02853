/-
  Files of variables: one assignment on each line.

  A line is an assignment if it has an equals sign; a blank line and one that
  begins with a number sign are none.  Blanks around the name and the value do
  not count, nor do quotes around the value.  An assignment without a name or
  without a value has no effect, and a variable that is already there keeps
  its value: of two assignments to one name the first counts.
-/
import SpanQuest.Mapping
import SpanQuest.Text.Blank
import SpanQuest.Trouble

namespace SpanQuest

/-- The variables of an environment. -/
abbrev Environment := Mapping String

namespace Environment

/-- The text holds the NUL character, which no variable may. -/
def hasNul (s : String) : Bool :=
  s.toList.contains '\x00'

/-- The environment with a variable set: it has a name without an equals sign,
    and its value is a text. -/
def set (env : Environment) (name : String) : Json → Except Fault Environment
  | .text value =>
    if hasNul name || hasNul value then .error .nulCharacter
    else if name.toList.contains '=' then .error .badVariableName
    else if name.isEmpty then .error .namelessVariable
    else .ok (Mapping.put name value env)
  | v => .error (.notVariableText v.kindName)

end Environment

namespace Dotenv

/-- The lines of a text; a line ends with a line feed, a carriage return, or
    both in that order.  `line` is the reversed beginning of the one under way. -/
def linesFrom (line : List Char) : List Char → List (List Char)
  | [] => [line.reverse]
  | '\r' :: '\n' :: cs => line.reverse :: linesFrom [] cs
  | c :: cs =>
    if c == '\n' || c == '\r' then line.reverse :: linesFrom [] cs else linesFrom (c :: line) cs

/-- The lines of a text. -/
def lines (s : String) : List (List Char) :=
  linesFrom [] s.toList

/-- A quote of either kind. -/
def isQuote (c : Char) : Bool :=
  c == '\'' || c == '"'

/-- The text without the quotes at both ends. -/
def unquote (cs : List Char) : List Char :=
  ((cs.dropWhile isQuote).reverse.dropWhile isQuote).reverse

/-- The name and the value that a line assigns, if it assigns one. -/
def assignment? (line : List Char) : Option (String × String) :=
  let line := Text.trimChars line
  if line.head? == some '#' || !line.contains '=' then none
  else
    let name := Text.trimChars (line.takeWhile (· != '='))
    let value := unquote (Text.trimChars ((line.dropWhile (· != '=')).drop 1))
    if name.isEmpty || value.isEmpty then none
    else some (String.ofList name, String.ofList value)

/-- The assignments of a file, in order. -/
def assignments (s : String) : List (String × String) :=
  (lines s).filterMap assignment?

/-- The environment after an assignment: a variable that is there stays. -/
def assign (env : Environment) (a : String × String) : Environment :=
  if Mapping.has a.1 env then env else Mapping.put a.1 a.2 env

/-- The environment after assignments.  One that would set a variable to a text
    with NUL stops them. -/
def extend (env : Environment) : List (String × String) → Except Fault Environment
  | [] => .ok env
  | a :: rest =>
    if !Mapping.has a.1 env && (Environment.hasNul a.1 || Environment.hasNul a.2) then .error .nulCharacter
    else extend (assign env a) rest

/-- The environment after a file was loaded into it. -/
def load (env : Environment) (file : String) : Except Fault Environment :=
  extend env (assignments file)

end Dotenv

end SpanQuest
