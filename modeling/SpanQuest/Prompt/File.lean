/-
  Files of prompts.

  The file holds a value in a notation that reads texts as lines: inside a text
  a line break that is no line feed, such as U+0085, goes the way of a wrapped
  line, and the blanks around it with it.  Some characters may not stand in the
  file at all, a name may not be wrapped, and it may not be long.

  * `flaw?` is what keeps a file from being read;
  * `plainValue` is the value that is read from a file without a flaw.
-/
import SpanQuest.Json.Printer
import SpanQuest.Trouble.Fault

namespace SpanQuest.Prompt.File

/-! ## Line breaks in texts -/

/-- A character that ends a line and may stand in a text as it is. -/
def isBreak (c : Char) : Bool :=
  c.toNat == 0x85 || c.toNat == 0x2028 || c.toNat == 0x2029

/-- What stands between two runs of ink: blanks, or line breaks with the blanks
    around them. -/
inductive Gap where
  | blanks (count : Nat)
  /-- The first line break, and the further ones, the last one first. -/
  | breaks (first : Char) (more : List Char)
  deriving DecidableEq, Repr

/-- A line break as it is read; U+0085 is a line feed. -/
def breakRead (c : Char) : Char :=
  if c.toNat == 0x85 then '\n' else c

/-- A gap as it is read: blanks stay, a lone U+0085 is one blank, and of several
    line breaks the first does not count if it is U+0085. -/
def Gap.read : Gap → List Char
  | blanks count => List.replicate count ' '
  | breaks first more =>
    let kept := if first.toNat != 0x85 then [first] else if more.isEmpty then [' '] else []
    kept ++ (more.map breakRead).reverse

/-- A text as it is read after the gap `gap`. -/
def unwrapFrom (gap : Gap) : List Char → List Char
  | [] => gap.read
  | c :: cs =>
    match gap with
    | .blanks count =>
      if c == ' ' then unwrapFrom (.blanks (count + 1)) cs
      else if isBreak c then unwrapFrom (.breaks c []) cs
      else gap.read ++ c :: unwrapFrom (.blanks 0) cs
    | .breaks first more =>
      if c == ' ' then unwrapFrom gap cs
      else if isBreak c then unwrapFrom (.breaks first (c :: more)) cs
      else gap.read ++ c :: unwrapFrom (.blanks 0) cs

/-- A text as it is read. -/
def unwrap (s : String) : String :=
  String.ofList (unwrapFrom (.blanks 0) s.toList)

/-! ## Values -/

mutual

/-- A value as it is read.  A number with an exponent has a fraction as well:
    one without is a text, and so are the words for what is infinite or no
    number. -/
def plainValue : Json → Json
  | .double x =>
    let written := Json.renderDouble x
    if written.contains '.' then .double x else .text (String.ofList written)
  | .text s => .text (unwrap s)
  | .array items => .array (plainItems items)
  | .object members => .object (plainMembers members)
  | v => v

/-- The items of an array as they are read. -/
def plainItems : List Json → List Json
  | [] => []
  | v :: vs => plainValue v :: plainItems vs

/-- The members of an object as they are read. -/
def plainMembers : List (String × Json) → List (String × Json)
  | [] => []
  | (k, v) :: ms => (unwrap k, plainValue v) :: plainMembers ms

end

/-! ## Flaws -/

/-- A character that may not stand in a file. -/
def isForbidden (c : Char) : Bool :=
  let n := c.toNat
  (0x7f ≤ n && n ≤ 0x9f && n != 0x85) || n == 0xfffe || n == 0xffff

/-- The characters begin with a line that separates documents, before a blank or
    a line break. -/
def beginsSeparator : List Char → Bool
  | a :: b :: c :: d :: _ =>
    ((a == '-' && b == '-' && c == '-') || (a == '.' && b == '.' && c == '.')) &&
      (d == ' ' || isBreak d)
  | _ => false

/-- A line of a text would separate documents. -/
def hasSeparator : List Char → Bool
  | [] => false
  | c :: cs => (isBreak c && beginsSeparator cs) || hasSeparator cs

/-- The characters that a character of a text takes in the file. -/
def writtenLength (c : Char) : Nat :=
  if c == '"' || c == '\\' || c == '\n' || c == '\r' || c == '\t' || c == '\x08' || c == '\x0c' then 2
  else if c.toNat < 0x20 then 6
  else 1

/-- The characters that a text takes in the file, without its quotes. -/
def writtenSize : List Char → Nat
  | [] => 0
  | c :: cs => writtenLength c + writtenSize cs

/-- The most characters of a name, its quotes among them. -/
def nameLimit : Nat := 1024

/-- The name of a member cannot be read: it is wrapped, or too long. -/
def isBadName (cs : List Char) : Bool :=
  cs.any isBreak || nameLimit < writtenSize cs + 2

/-- A text in a file, and whether it is the name of a member. -/
structure Piece where
  isName : Bool
  cs : List Char

mutual

/-- The texts of a value, in the order of the file. -/
def piecesOf : Json → List Piece
  | .text s => [⟨false, s.toList⟩]
  | .array items => piecesOfItems items
  | .object members => piecesOfMembers members
  | _ => []

/-- The texts of the items of an array. -/
def piecesOfItems : List Json → List Piece
  | [] => []
  | v :: vs => piecesOf v ++ piecesOfItems vs

/-- The texts of the members of an object. -/
def piecesOfMembers : List (String × Json) → List Piece
  | [] => []
  | (k, v) :: ms => ⟨true, k.toList⟩ :: piecesOf v ++ piecesOfMembers ms

end

/-- What keeps a file with a value from being read: a forbidden character
    anywhere, else the first text that cannot be read. -/
def flaw? (v : Json) : Option Fault :=
  let pieces := piecesOf v
  match pieces.findSome? fun p => p.cs.find? isForbidden with
  | some c => some (.forbiddenCharacter c)
  | none =>
    pieces.findSome? fun p =>
      if hasSeparator p.cs then some .separatorInText
      else if p.isName && isBadName p.cs then some .unreadableName
      else none

end SpanQuest.Prompt.File
