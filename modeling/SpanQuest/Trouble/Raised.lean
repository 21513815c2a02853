/-
  What collaborators raise: exceptions by name, made of parts.

  A search service or a transport raises an exception of a name, made of its
  parts in order.  Some names are those of the failures of this project
  (`failure?`); an exception of any other name is a fault with its wording
  (`fault`).  Parts of the wrong number or kind make no such exception: what is
  wrong with them is raised in its place.
-/
import SpanQuest.Trouble

namespace SpanQuest.Raised

/-! ## Wordings -/

/-- Several parts between round brackets. -/
def tuple (parts : List Json) : String :=
  "(" ++ ", ".intercalate (parts.map Json.inspect) ++ ")"

/-- The wording of an exception made of parts: none, the part alone, or all of
    them between brackets. -/
def plain : List Json → String
  | [] => ""
  | [part] => part.display
  | parts => tuple parts

/-! ## Parts that do not fit -/

/-- Parts of the wrong number or kind. -/
def misfit (said : String) : Fault :=
  .foreign "TypeError" said

/-- What may stand in a place among the parts. -/
inductive Slot where
  | text
  | index
  | any
  deriving DecidableEq, Repr

/-- The name of the kind of a value that stands in the place of a text. -/
def shortKind (v : Json) : String :=
  if v.isNull then "None" else v.kindName

/-- The integer that a value is as an index; a truth value is one or zero. -/
def index? : Json → Option Int
  | .int n => some n
  | .bool b => some (if b then 1 else 0)
  | _ => none

/-- A number that an index can have. -/
def isIndex (n : Int) : Bool :=
  -9223372036854775808 ≤ n && n ≤ 9223372036854775807

/-- What is wrong with the part at a place, counted from one. -/
def slotFault? (place : Nat) : Slot → Json → Option Fault
  | .text, .text _ => none
  | .text, v => some (misfit s!"argument {place} must be str, not {shortKind v}")
  | .index, v =>
    match index? v with
    | none => some (misfit s!"'{v.kindName}' object cannot be interpreted as an integer")
    | some n =>
      if isIndex n then none
      else some (.foreign "OverflowError" "Python int too large to convert to C ssize_t")
  | .any, _ => none

/-- What is wrong with the first part that does not fit. -/
def firstMisfit? (place : Nat) : List Slot → List Json → Option Fault
  | slot :: slots, part :: parts =>
    match slotFault? place slot part with
    | some f => some f
    | none => firstMisfit? (place + 1) slots parts
  | _, _ => none

/-- What is wrong with parts that should fill all the places. -/
def misfit? (slots : List Slot) (parts : List Json) : Option Fault :=
  if parts.length == slots.length then firstMisfit? 1 slots parts
  else some (misfit s!"function takes exactly {slots.length} arguments ({parts.length} given)")

/-! ## Exceptions of the system -/

/-- The exceptions of the operating system. -/
def systemNames : List String := ["OSError", "IOError", "EnvironmentError", "ConnectionError",
  "ConnectionRefusedError", "ConnectionResetError", "ConnectionAbortedError", "BrokenPipeError",
  "FileNotFoundError", "FileExistsError", "IsADirectoryError", "NotADirectoryError",
  "PermissionError", "InterruptedError", "ProcessLookupError", "ChildProcessError",
  "BlockingIOError", "TimeoutError"]

/-- The names that all stand for the general exception of the system. -/
def generalNames : List String := ["OSError", "IOError", "EnvironmentError"]

/-- The numbers of an operation that would block. -/
def blockingNumbers : List Int := [11, 114, 115]

/-- The exception tells of an operation that would block. -/
def blocks (name : String) (number : Json) : Bool :=
  name == "BlockingIOError" ||
    match number with
    | .int n => generalNames.contains name && blockingNumbers.contains n
    | _ => false

/-- What is wrong with the number of characters that were written. -/
def countFault? : Json → Option Fault
  | .double _ => some (misfit "'float' object cannot be interpreted as an integer")
  | v =>
    match index? v with
    | some n =>
      if isIndex n then none
      else some (.foreign "ValueError" "cannot fit 'int' into an index-sized integer")
    | none => none

/-- A number, of any kind. -/
def isNumber : Json → Bool
  | .int _ | .bool _ | .double _ => true
  | _ => false

/-- An exception of the system, from its number and its wording on: then a file
    may follow, something that does not count, and a second file.  Where the
    operation would block, a number in the place of the file is a count. -/
def system (name : String) (number said : Json) (rest : List Json) : Fault :=
  let head := s!"[Errno {number.display}] {said.display}"
  match rest with
  | [] => .foreign name head
  | file :: others =>
    if file.isNull then .foreign name head
    else if blocks name number && isNumber file then (countFault? file).getD (.foreign name head)
    else
      match others with
      | [_, second] =>
        if second.isNull then .foreign name s!"{head}: {file.inspect}"
        else .foreign name s!"{head}: {file.inspect} -> {second.inspect}"
      | _ => .foreign name s!"{head}: {file.inspect}"

/-! ## Exceptions about a place in a text -/

/-- The exceptions of a text that does not parse. -/
def grammarNames : List String := ["SyntaxError", "IndentationError", "TabError"]

/-- The items of a value that has some. -/
def items? : Json → Option (List Json)
  | .array items => some items
  | .text s => some (s.toList.map fun c => .text (String.singleton c))
  | .object members => some (members.map fun p => .text p.1)
  | _ => none

/-- The name of a file without its directories. -/
def baseName (path : String) : String :=
  String.ofList (path.toList.reverse.takeWhile (· != '/')).reverse

/-- The wording of a place: the file, where it is a text, and the line, where it
    is an integer. -/
def placeText (file line : Json) : String :=
  let lineText := match line with
    | .int n => some s!"line {(Json.int (if isIndex n then n else -1)).display}"
    | _ => none
  let parts := (file.text?.map baseName).toList ++ lineText.toList
  if parts.isEmpty then "" else " (" ++ ", ".intercalate parts ++ ")"

/-- An exception of a text that does not parse: its wording, and the place if
    there are two parts. -/
def grammar (name : String) (parts : List Json) : Fault :=
  let said := (parts.headD .null).display
  match parts with
  | [_, place] =>
    match items? place with
    | none => misfit s!"'{place.kindName}' object is not iterable"
    | some items =>
      match items with
      | [file, line, _, _] | [file, line, _, _, _, _] => .foreign name (said ++ placeText file line)
      | [_, _, _, _, _] => misfit "end_offset must be provided when end_lineno is provided"
      | _ =>
        let bound := if items.length < 4 then "at least 4" else "at most 6"
        misfit s!"function takes {bound} arguments ({items.length} given)"
  | _ => .foreign name said

/-- The wording of a stretch of a text. -/
def stretchText (text : String) (start stop : Int) : String :=
  match if 0 ≤ start && stop == start + 1 then text.toList[start.toNat]? else none with
  | some c =>
    s!"character '{String.ofList (Text.codePointEscape c)}' in position {(Json.int start).display}"
  | none => s!"characters in position {(Json.int start).display}-{(Json.int (stop - 1)).display}"

/-- An exception of a text that cannot be encoded. -/
def unencodable (name : String) (parts : List Json) : Fault :=
  match misfit? [.text, .text, .index, .index, .text] parts, parts with
  | some f, _ => f
  | none, [codec, text, start, stop, reason] =>
    let place := stretchText (text.text?.getD "") ((index? start).getD 0) ((index? stop).getD 0)
    .foreign name s!"'{codec.display}' codec can't encode {place}: {reason.display}"
  | none, _ => .foreign name ""

/-- An exception of a text that cannot be changed into another. -/
def unchangeable (name : String) (parts : List Json) : Fault :=
  match misfit? [.text, .index, .index, .text] parts, parts with
  | some f, _ => f
  | none, [text, start, stop, reason] =>
    let place := stretchText (text.text?.getD "") ((index? start).getD 0) ((index? stop).getD 0)
    .foreign name s!"can't translate {place}: {reason.display}"
  | none, _ => .foreign name ""

/-- An exception of bytes that are no text; no JSON value is bytes. -/
def undecodable (parts : List Json) : Fault :=
  match misfit? [.text, .any, .index, .index, .text] parts with
  | some f => f
  | none =>
    misfit s!"a bytes-like object is required, not '{((parts.drop 1).headD .null).kindName}'"

/-! ## Groups -/

/-- A group of exceptions; no JSON value is one. -/
def group (parts : List Json) : Fault :=
  let maker := "BaseExceptionGroup.__new__()"
  match parts with
  | [.text _, members] =>
    let listed := match members with
      | .array items => some items.isEmpty
      | .text s => some s.isEmpty
      | _ => none
    match listed with
    | none => misfit "second argument (exceptions) must be a sequence"
    | some true => .foreign "ValueError" "second argument (exceptions) must be a non-empty sequence"
    | some false =>
      .foreign "ValueError" "Item 0 of second argument (exceptions) is not an exception"
  | [said, _] => misfit s!"{maker} argument 1 must be str, not {shortKind said}"
  | _ => misfit s!"{maker} takes exactly 2 arguments ({parts.length} given)"

/-! ## All names -/

/-- The name that an exception goes by: some have several. -/
def properName (name : String) : String :=
  if generalNames.contains name then "OSError" else name

/-- The fault that an exception of a name is. -/
def fault (name : String) (parts : List Json) : Fault :=
  let proper := properName name
  if grammarNames.contains name then grammar name parts
  else
    match name, parts with
    | "KeyError", [key] => .foreign name key.inspect
    | "UnicodeEncodeError", parts => unencodable name parts
    | "UnicodeTranslateError", parts => unchangeable name parts
    | "UnicodeDecodeError", parts => undecodable parts
    | "ExceptionGroup", parts => group parts
    | "BaseExceptionGroup", parts => group parts
    | _, number :: said :: rest =>
      if systemNames.contains name && rest.length ≤ 3 then system proper number said rest
      else .foreign proper (plain parts)
    | _, parts => .foreign proper (plain parts)

/-- The fault of an exception that leaves a routine which is waited for: one that
    marks the end of an iteration cannot. -/
def awaited : Fault → Fault
  | .foreign "StopIteration" _ => .foreign "RuntimeError" "coroutine raised StopIteration"
  | f => f

/-! ## Failures -/

/-- What a failure of this project is made of: the name of its first part, and
    the least and the most parts. -/
structure Making where
  first : String
  least : Nat
  most : Nat

/-- How the failures are made that want parts of their own. -/
def makings : List (String × Making) := [
  ("RequestInProgressError", ⟨"message", 0, 1⟩),
  ("BackendUnreachable", ⟨"endpoint", 1, 3⟩),
  ("ProtocolError", ⟨"message", 1, 3⟩),
  ("ModelNotInstalled", ⟨"model", 1, 3⟩),
  ("RequestTimeoutError", ⟨"timeout", 1, 1⟩),
  ("ParseError", ⟨"reason", 1, 2⟩)]

/-- What is wrong with the number of the parts of a failure. -/
def makingFault? (name : String) (making : Making) (given : Nat) : Option Fault :=
  let maker := s!"{name}.__init__()"
  if given < making.least then
    some (misfit s!"{maker} missing 1 required positional argument: '{making.first}'")
  else if making.most < given then
    let bound :=
      if making.least == making.most then s!"{making.most + 1} positional arguments"
      else s!"from {making.least + 1} to {making.most + 1} positional arguments"
    some (misfit s!"{maker} takes {bound} but {given + 1} were given")
  else none

/-- The seconds of a deadline. -/
def secondsOf : Json → Except Fault Double
  | .double x => .ok x
  | .text _ => .error (.foreign "ValueError" "Unknown format code 'g' for object of type 'str'")
  | v =>
    match index? v with
    | none => .error (misfit s!"unsupported format string passed to {v.kindName}.__format__")
    | some n =>
      match Double.ofInt n with
      | .infinite _ => .error .hugeInteger
      | x => .ok x

/-- The failure of a name, made of parts of the right number; `none` if no
    failure has that name. -/
def failureOf? (name : String) (parts : List Json) : Option (Except Fault Failure) :=
  let part := fun n other => (parts[n]?).getD other
  let first := part 0 .null
  match name with
  | "TraceQueryError" => some (.ok (.general (plain parts)))
  | "ConfigurationError" => some (.ok (.configuration (plain parts)))
  | "PromptNotFoundError" => some (.ok (.promptMissing (plain parts)))
  | "PromptRenderError" => some (.ok (.promptUnusable (plain parts)))
  | "RequestInProgressError" =>
    some (.ok (if parts.isEmpty then .inProgress else .busy first.display))
  | "BackendUnreachable" =>
    some (.ok (.unreachable first (part 1 (.text "backend")) (part 2 (.text ""))))
  | "ProtocolError" => some (.ok (.protocol first.display (part 1 .null) (part 2 .null)))
  | "ModelNotInstalled" => some (.ok (.notInstalled first (part 1 .null) (part 2 .null)))
  | "RequestTimeoutError" => some ((secondsOf first).map .timeout)
  | "ParseError" =>
    match part 1 (.text "") with
    | .text reply => some (.ok (.unusableReply first reply))
    | v => some (.error (.noMember v.kindName "split"))
  | _ => none

/-- The failure of a name, made of parts; `none` if no failure has that name. -/
def failure? (name : String) (parts : List Json) : Option (Except Fault Failure) :=
  match (makings.lookup name).bind fun making => makingFault? name making parts.length with
  | some f => some (.error f)
  | none => failureOf? name parts

/-- What raising an exception of a name comes to. -/
def trouble (name : String) (parts : List Json) : Trouble :=
  match failure? name parts with
  | some (.ok f) => .failure f
  | some (.error f) => .fault f
  | none => .fault (fault name parts)

end SpanQuest.Raised
