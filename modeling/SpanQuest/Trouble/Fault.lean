/-
  Faults: what goes wrong below a request in a way that has no failure of its
  own, such as a store that cannot be written or a reply of an odd shape.

  Inside a request a fault becomes a failure of the protocol that carries its
  wording (`Trouble.within`); outside it goes to the caller as it is.
-/
import SpanQuest.Address.Flaw
import SpanQuest.Json.Display
import SpanQuest.Json.Reader
import SpanQuest.Text.Encoding
import SpanQuest.Text.Quoted

namespace SpanQuest

/-- What goes wrong below a request. -/
inductive Fault where
  /-- An integer with more digits than one may have. -/
  | digitLimit (count : Nat)
  /-- A text that should be an integer and is none. -/
  | notAnInteger (given : String)
  /-- A value of a kind that no integer is made of. -/
  | notIntegral (kind : String)
  /-- No number, where an integer is wanted. -/
  | noNumber
  /-- An infinite number, where an integer is wanted. -/
  | infiniteNumber
  /-- An integer that no double is near. -/
  | hugeInteger
  /-- A value of a kind that is added to no time. -/
  | notAddable (kind : String)
  /-- A value of a kind that limits no list. -/
  | badLimit
  /-- A value of a kind that no length is compared with. -/
  | notComparable (kind : String)
  /-- A lookback beyond the longest duration. -/
  | durationRange
  /-- A moment outside the years 1 to 9999. -/
  | dateRange
  /-- A moment that has no time of day: before year 1 or after 9999. -/
  | yearRange
  /-- A moment so far off that seconds cannot count it. -/
  | secondsRange
  /-- A moment whose year cannot be counted. -/
  | calendarRange
  /-- A value without members, or without that operation. -/
  | noMember (kind member : String)
  /-- A value that has no items. -/
  | notIndexable (kind : String)
  /-- An object without that member. -/
  | keyMissing (key : String)
  /-- A header may hold ASCII only; `start` to `stop` are the characters that
      are none, the first of them `first`. -/
  | headerNotAscii (first : Char) (start stop : Nat)
  /-- A text that is no address. -/
  | badAddress (flaw : AddressFlaw)
  /-- A response from what has no scheme or no host. -/
  | notFullAddress (given : String)
  /-- A number that is infinite or none, where JSON is posted. -/
  | notFinite
  /-- Stored bytes that are no text, and the first stretch that is none. -/
  | notText (place : Text.Malformed)
  /-- A stored value that is no text, where JSON is wanted. -/
  | notJsonText (kind : String)
  | isDirectory (path : String)
  | fileExists (path : String)
  | fileMissing (path : String)
  | notDirectory (path : String)
  /-- A path, or a name of it, with too many bytes. -/
  | nameTooLong (path : String)
  /-- The variable for the home directory does not name one. -/
  | homeless
  /-- A variable that holds the NUL character. -/
  | nulCharacter
  /-- A variable whose name has an equals sign. -/
  | badVariableName
  /-- A variable without a name. -/
  | namelessVariable
  /-- A variable that is to be set to a value of a kind that is no text. -/
  | notVariableText (kind : String)
  /-- A character that may not stand in a file of prompts. -/
  | forbiddenCharacter (c : Char)
  /-- A text in a file of prompts with a line that separates documents. -/
  | separatorInText
  /-- The name of a member of a file of prompts that is wrapped or too long. -/
  | unreadableName
  /-- A template that is no text. -/
  | templateKind (kind : String)
  /-- Arguments that a backend does not take, or one that it lacks. -/
  | badArguments
  /-- What a collaborator raised: the name of the exception and its wording. -/
  | foreign (name said : String)
  deriving Inhabited

namespace Fault

/-- A fault of the file system: its number, its wording, the path. -/
def fileMessage (number : Nat) (said path : String) : String :=
  s!"[Errno {number}] {said}: {Text.quoted path}"

/-- The wording of bytes that are no text. -/
def malformedMessage (m : Text.Malformed) : String :=
  let place :=
    if m.stop == m.start + 1 then
      s!"byte 0x{String.ofList (Text.hexDigits 2 m.byte.toNat)} in position {m.start}"
    else s!"bytes in position {m.start}-{m.stop - 1}"
  let said := match m.kind with
    | .badStart => "invalid start byte"
    | .badContinuation => "invalid continuation byte"
    | .endsEarly => "unexpected end of data"
  s!"'utf-8' codec can't decode {place}: {said}"

/-- How much of a quoted text messages show of what is no integer. -/
def shownLimit : Nat := 200

/-- The wording of a text that is no integer. -/
def notAnIntegerMessage (given : String) : String :=
  "invalid literal for int() with base 10: " ++
    String.ofList ((Text.quotedChars given.toList).take shownLimit)

/-- The wording of a fault. -/
def message : Fault → String
  | digitLimit count => Json.digitLimitMessage count
  | notAnInteger given => notAnIntegerMessage given
  | notIntegral kind =>
    s!"int() argument must be a string, a bytes-like object or a real number, not '{kind}'"
  | noNumber => "cannot convert float NaN to integer"
  | infiniteNumber => "cannot convert float infinity to integer"
  | hugeInteger => "int too large to convert to float"
  | notAddable kind => s!"unsupported operand type(s) for +: 'float' and '{kind}'"
  | notComparable kind => s!"'<=' not supported between instances of 'int' and '{kind}'"
  | badLimit => "slice indices must be integers or None or have an __index__ method"
  | durationRange => "duration out of range"
  | dateRange => "date value out of range"
  | yearRange => "year is out of range"
  | secondsRange => "timestamp out of range for platform time_t"
  | calendarRange => "[Errno 75] Value too large for defined data type"
  | noMember kind member => s!"'{kind}' object has no attribute '{member}'"
  | notIndexable kind => s!"'{kind}' object is not subscriptable"
  | keyMissing key => key
  | headerNotAscii first start stop =>
    let place :=
      if stop == start + 1 then
        s!"character '{String.ofList (Text.codePointEscape first)}' in position {start}"
      else s!"characters in position {start}-{stop - 1}"
    s!"'ascii' codec can't encode {place}: ordinal not in range(128)"
  | badAddress flaw => flaw.message
  | notFullAddress given => s!"unknown url type: {Text.quoted given}"
  | notFinite => "Out of range float values are not JSON compliant"
  | notText m => malformedMessage m
  | notJsonText kind => s!"the JSON object must be str, bytes or bytearray, not {kind}"
  | isDirectory path => fileMessage 21 "Is a directory" path
  | fileExists path => fileMessage 17 "File exists" path
  | fileMissing path => fileMessage 2 "No such file or directory" path
  | notDirectory path => fileMessage 20 "Not a directory" path
  | nameTooLong path => fileMessage 36 "File name too long" path
  | homeless => "Could not determine home directory."
  | nulCharacter => "embedded null byte"
  | badVariableName => "illegal environment variable name"
  | namelessVariable => "[Errno 22] Invalid argument"
  | notVariableText kind => s!"str expected, not {kind}"
  | forbiddenCharacter c =>
    s!"unacceptable character #x{String.ofList (Text.hexDigits 4 c.toNat)}: " ++
      "special characters are not allowed"
  | separatorInText => "while scanning a quoted scalar"
  | unreadableName => "while parsing a flow mapping"
  | templateKind _ => "Can't compile non template nodes"
  | badArguments => "unexpected arguments"
  | foreign _ said => said

end Fault

end SpanQuest
