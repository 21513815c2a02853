/-
  Templates: texts with places for values.

  Between double braces stands the name of a variable, and between a brace and
  a number sign a comment; all else is text.  A hyphen at the inner side of
  either mark drops the blanks that stand outside of it.  A brace with a percent
  sign begins nothing that a template may hold.  Line ends of every kind are
  line feeds, and one at the end of the template does not count.

  * `Template.read?` cuts a template into its parts; none if it is malformed;
  * `Template.fill` puts the values in their places.  A value goes in as it is:
    it is never read as a template.
-/
import SpanQuest.Mapping
import SpanQuest.Text.Blank
import SpanQuest.Text.Decomposition
import SpanQuest.Text.Identifier

namespace SpanQuest

/-- A part of a template. -/
inductive TemplatePart where
  | literal (cs : List Char)
  | place (name : String)
  deriving DecidableEq, Repr

/-- The parts of a template, in order. -/
abbrev Template := List TemplatePart

namespace Template

/-! ## Reading -/

/-- The text with every line end a line feed. -/
def unifyLineEnds : List Char → List Char
  | [] => []
  | '\r' :: '\n' :: cs => '\n' :: unifyLineEnds cs
  | c :: cs => (if c == '\r' then '\n' else c) :: unifyLineEnds cs

/-- The text without a line feed at its end. -/
def dropFinalLineEnd (cs : List Char) : List Char :=
  match cs.getLast? with
  | some '\n' => cs.dropLast
  | _ => cs

/-- The words that stand for a value of their own, and its text. -/
def constants : List (String × String) := [("true", "True"), ("True", "True"), ("false", "False"),
  ("False", "False"), ("none", "None"), ("None", "None")]

/-- The word that begins a negation, so that it is no name. -/
def negation : String := "not"

/-- The part that the inside of double braces is: the place of a variable, or
    the text of a constant. -/
def part? (inside : List Char) : Option TemplatePart :=
  let name := Text.trimChars inside
  if !Text.isIdentifier name then none
  else
    match constants.lookup (String.ofList name) with
    | some shown => some (.literal shown.toList)
    | none =>
      if String.ofList name == negation then none else some (.place (String.ofList name))

/-- What stands before the mark of two characters, and after it. -/
def splitAtPair? (a b : Char) : List Char → Option (List Char × List Char)
  | c :: d :: cs =>
    if c == a && d == b then some ([], cs)
    else (splitAtPair? a b (d :: cs)).map fun p => (c :: p.1, p.2)
  | _ => none

/-- A text as a part; the empty text is none. -/
def literal? (reversed : List Char) : Template :=
  if reversed.isEmpty then [] else [.literal reversed.reverse]

/-- The text before a mark, reversed, and what follows the sign of the mark: a
    hyphen drops the blanks before the mark, a plus sign keeps them. -/
def opened (seen : List Char) : List Char → List Char × List Char
  | '-' :: cs => (seen.dropWhile Text.isBlank, cs)
  | '+' :: cs => (seen, cs)
  | cs => (seen, cs)

/-- The inside of a mark, and what follows it: a hyphen at the end of the inside
    drops the blanks after the mark. -/
def closed (inside rest : List Char) : List Char × List Char :=
  match inside.getLast? with
  | some '-' => (inside.dropLast, rest.dropWhile Text.isBlank)
  | _ => (inside, rest)

/-- The parts of a template from a place on; `seen` is the text before it,
    reversed.  Each step takes a character, so that their number is fuel
    enough. -/
def readFrom : Nat → List Char → List Char → Option Template
  | 0, seen, _ => some (literal? seen)
  | _ + 1, seen, [] => some (literal? seen)
  | fuel + 1, seen, '{' :: '{' :: cs =>
    let (before, cs) := opened seen cs
    match splitAtPair? '}' '}' cs with
    | none => none
    | some (inside, rest) =>
      let (inside, rest) := closed inside rest
      match part? inside, readFrom fuel [] rest with
      | some part, some parts => some (literal? before ++ part :: parts)
      | _, _ => none
  | fuel + 1, seen, '{' :: '#' :: cs =>
    let (before, cs) := opened seen cs
    match splitAtPair? '#' '}' cs with
    | none => none
    | some (inside, rest) =>
      (readFrom fuel [] (closed inside rest).2).map (literal? before ++ ·)
  | _ + 1, _, '{' :: '%' :: _ => none
  | fuel + 1, seen, c :: cs => readFrom fuel (c :: seen) cs

/-- The parts of a template; none if it is malformed. -/
def read? (source : String) : Option Template :=
  let cs := dropFinalLineEnd (unifyLineEnds source.toList)
  readFrom (cs.length + 1) [] cs

/-! ## Values -/

/-- The names of the variables, in the order of their first places. -/
def names (template : Template) : List String :=
  (template.filterMap fun
    | .place name => some name
    | .literal _ => none).eraseDups

/-- Two spellings of one name. -/
def sameName (a b : String) : Bool :=
  a == b || Text.compatibleForm a.toList == Text.compatibleForm b.toList

/-- The name that stands for the template itself. -/
def itself : String := "self"

/-- The spelling that counts for a name: of all the spellings in a template, the
    one whose first place comes last.  The name of the template itself is there
    before any place, so that every other spelling of it counts instead. -/
def spellingOf (names : List String) (name : String) : String :=
  ((names.filter fun n => n != itself && sameName name n).getLast?).getD name

/-- The names that have a value unless one is given, and its text. -/
def standing : List (String × String) := [("range", "<class 'range'>"), ("dict", "<class 'dict'>"),
  ("lipsum", "<function generate_lorem_ipsum>"), ("cycler", "<class 'jinja2.utils.Cycler'>"),
  ("joiner", "<class 'jinja2.utils.Joiner'>"), ("namespace", "<class 'jinja2.utils.Namespace'>"),
  (itself, "<TemplateReference None>")]

/-- The value of a name in a template with these names.  The name of the template
    itself has one even where another spelling of it counts that has none. -/
def valueOf (values : Mapping String) (names : List String) (name : String) : Option String :=
  let spelling := spellingOf names name
  let value := (Mapping.get? spelling values).or (standing.lookup spelling)
  if name == itself then some (value.getD "missing") else value

/-! ## Filling -/

/-- The text of the parts with the values in their places, or the name of the
    first variable that has none. -/
def fillWith (value? : String → Option String) : Template → Except String (List Char)
  | [] => .ok []
  | .literal cs :: parts => (fillWith value? parts).map (cs ++ ·)
  | .place name :: parts =>
    match value? name with
    | none => .error name
    | some value => (fillWith value? parts).map (value.toList ++ ·)

/-- The text of a template with the values in their places, or the name of the
    first variable that has none. -/
def fill (values : Mapping String) (template : Template) : Except String (List Char) :=
  fillWith (valueOf values template.names) template

end Template

end SpanQuest
