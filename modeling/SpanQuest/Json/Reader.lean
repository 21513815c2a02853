/-
  Reading JSON.

  Beside the values of the standard, a number may be `NaN`, `Infinity` or
  `-Infinity`.  A number without a fraction and an exponent is an integer, of
  at most 4300 digits.  Of members with one name the first keeps its place and
  the last its value.

  `Json.read` answers the value, or what is wrong and where: the first place
  at which the text can no longer be the beginning of a value.  The readers
  below it take the characters from a place on and answer a value and the
  characters after it; a place is told by the number of characters left.
-/
import SpanQuest.Json.Value
import SpanQuest.Number.Reading
import SpanQuest.Text.Encoding
import SpanQuest.Text.HexDigit

namespace SpanQuest.Json

open SpanQuest.Text

/-! ## What can be wrong -/

/-- What a reader complains of. -/
inductive Complaint where
  | expectedValue
  | expectedName
  | expectedColon
  | expectedComma
  | extraData
  | unterminatedText
  | controlCharacter
  | badEscape
  | badCodePoint
  | byteOrderMark
  deriving DecidableEq, Repr

/-- The wording of a complaint. -/
def Complaint.message : Complaint → String
  | expectedValue => "Expecting value"
  | expectedName => "Expecting property name enclosed in double quotes"
  | expectedColon => "Expecting ':' delimiter"
  | expectedComma => "Expecting ',' delimiter"
  | extraData => "Extra data"
  | unterminatedText => "Unterminated string starting at"
  | controlCharacter => "Invalid control character at"
  | badEscape => "Invalid \\escape"
  | badCodePoint => "Invalid \\uXXXX escape"
  | byteOrderMark => "Unexpected UTF-8 BOM (decode using utf-8-sig)"

/-- Why reading stopped: a complaint about the place with `left` characters
    left, or an integer that is too long. -/
inductive Stop where
  | malformed (complaint : Complaint) (left : Nat)
  | tooManyDigits (count : Nat)
  deriving DecidableEq, Repr

/-- A place in a text: its line and its column from one, its offset from zero. -/
structure Place where
  line : Nat
  column : Nat
  offset : Nat
  deriving DecidableEq, Repr

/-- The place before which the characters `before` stand. -/
def Place.after (before : List Char) : Place where
  line := before.count '\n' + 1
  column := (before.reverse.takeWhile (· != '\n')).length + 1
  offset := before.length

/-- Why a text is not the text of a value. -/
inductive ReadError where
  | malformed (complaint : Complaint) (place : Place)
  | tooManyDigits (count : Nat)
  deriving DecidableEq, Repr

/-- The wording of an integer that is too long. -/
def digitLimitMessage (count : Nat) : String :=
  s!"Exceeds the limit ({Number.digitLimit} digits) for integer string conversion: value has " ++
    s!"{count} digits; use sys.set_int_max_str_digits() to increase the limit"

/-- The wording of a complaint at its place. -/
def ReadError.message : ReadError → String
  | malformed complaint place =>
    s!"{complaint.message}: line {place.line} column {place.column} (char {place.offset})"
  | tooManyDigits count => digitLimitMessage count

/-- A stop in the text `cs`, with its place. -/
def Stop.locate (cs : List Char) : Stop → ReadError
  | malformed complaint left => .malformed complaint (.after (cs.take (cs.length - left)))
  | tooManyDigits count => .tooManyDigits count

/-- A value read and the characters after it. -/
abbrev Reading (α : Type) := Except Stop (α × List Char)

/-! ## Blanks and texts -/

/-- The blanks between the parts of a value. -/
def isGap (c : Char) : Bool :=
  c == ' ' || c == '\t' || c == '\n' || c == '\r'

/-- The characters after the blanks at the front. -/
def skipGap (cs : List Char) : List Char :=
  cs.dropWhile isGap

/-- The number of four hexadecimal digits. -/
def hexQuad? (a b c d : Char) : Option Nat :=
  match hexValue? a, hexValue? b, hexValue? c, hexValue? d with
  | some i, some j, some k, some l => some (((i * 16 + j) * 16 + k) * 16 + l)
  | _, _, _, _ => none

/-- The character that a letter after a backslash stands for. -/
def shortEscape? : Char → Option Char
  | '"' => some '"'
  | '\\' => some '\\'
  | '/' => some '/'
  | 'b' => some '\x08'
  | 'f' => some '\x0c'
  | 'n' => some '\n'
  | 'r' => some '\r'
  | 't' => some '\t'
  | _ => none

/-- The low half of a pair that follows the high half `high`, if there is one:
    the character of the pair and the rest.  A pair counts only if a character
    follows it. -/
def readLowHalf (high : Nat) : List Char → Reading Char
  | '\\' :: 'u' :: a :: b :: c :: d :: e :: rest =>
    match hexQuad? a b c d with
    | none => .error (.malformed .badCodePoint (rest.length + 6))
    | some low =>
      if 0xdc00 ≤ low && low < 0xe000 then
        .ok (charOf (0x10000 + (high - 0xd800) * 0x400 + (low - 0xdc00)), e :: rest)
      else .ok (charOf high, '\\' :: 'u' :: a :: b :: c :: d :: e :: rest)
  | rest => .ok (charOf high, rest)

/-- The code point of four digits, after the `u`; a character has to follow
    them.  A high half takes the low half after it. -/
def readCodePoint : List Char → Reading Char
  | a :: b :: c :: d :: e :: rest =>
    match hexQuad? a b c d with
    | none => .error (.malformed .badCodePoint (rest.length + 6))
    | some n =>
      if 0xd800 ≤ n && n < 0xdc00 then readLowHalf n (e :: rest)
      else .ok (charOf n, e :: rest)
  | cs => .error (.malformed .badCodePoint (cs.length + 1))

/-- What stands after a backslash.  `start` tells the place of the quote that
    opens the text. -/
def readEscape (start : Nat) : List Char → Reading Char
  | [] => .error (.malformed .unterminatedText start)
  | 'u' :: rest => readCodePoint rest
  | c :: rest =>
    match shortEscape? c with
    | some d => .ok (d, rest)
    | none => .error (.malformed .badEscape (rest.length + 2))

/-- The characters of a text up to its closing quote; `seen` are those before,
    reversed.  Each step takes a character, so that their number is fuel enough. -/
def readTextFrom (start : Nat) : Nat → List Char → List Char → Reading (List Char)
  | 0, _, _ => .error (.malformed .unterminatedText start)
  | _ + 1, _, [] => .error (.malformed .unterminatedText start)
  | fuel + 1, seen, c :: rest =>
    if c == '"' then .ok (seen.reverse, rest)
    else if c == '\\' then
      match readEscape start rest with
      | .ok (d, rest) => readTextFrom start fuel (d :: seen) rest
      | .error stop => .error stop
    else if c.toNat < 0x20 then .error (.malformed .controlCharacter (rest.length + 1))
    else readTextFrom start fuel (c :: seen) rest

/-- The text whose characters begin at `cs`, after its opening quote. -/
def readText (cs : List Char) : Reading String :=
  match readTextFrom (cs.length + 1) (cs.length + 1) [] cs with
  | .ok (seen, rest) => .ok (String.ofList seen, rest)
  | .error stop => .error stop

/-! ## Numbers -/

/-- A digit of ASCII. -/
def isFigure (c : Char) : Bool :=
  '0' ≤ c && c ≤ '9'

/-- The number that digits denote. -/
def figuresValue (cs : List Char) : Nat :=
  cs.foldl (fun n c => 10 * n + (c.toNat - 0x30)) 0

/-- The digits of a fraction, after a point that a digit follows; else none. -/
def readFraction : List Char → List Char × List Char
  | '.' :: d :: rest =>
    if isFigure d then ((d :: rest).takeWhile isFigure, (d :: rest).dropWhile isFigure)
    else ([], '.' :: d :: rest)
  | cs => ([], cs)

/-- An exponent; none if the letter is missing or no digit follows. -/
def readExponent : List Char → Option Int × List Char
  | [] => (none, [])
  | e :: cs =>
    if e == 'e' || e == 'E' then
      let (negative, body) := Number.signed cs
      let digits := body.takeWhile isFigure
      if digits.isEmpty then (none, e :: cs)
      else
        let n : Int := figuresValue digits
        (some (if negative then -n else n), body.dropWhile isFigure)
    else (none, e :: cs)

/-- A number whose whole part is `whole`: an integer, unless a fraction or an
    exponent follows. -/
def finishNumber (negative : Bool) (whole rest : List Char) : Reading Json :=
  let (fraction, rest) := readFraction rest
  let (exponent, rest) := readExponent rest
  if fraction.isEmpty && exponent.isNone then
    if Number.digitLimit < whole.length then .error (.tooManyDigits whole.length)
    else
      let n : Int := figuresValue whole
      .ok (.int (if negative then -n else n), rest)
  else
    .ok (.double (Double.ofDecimal negative (figuresValue (whole ++ fraction))
      (exponent.getD 0 - fraction.length)), rest)

/-- A number: a sign, and a zero or digits that do not begin with a zero. -/
def readNumber (cs : List Char) : Reading Json :=
  let (negative, body) :=
    match cs with
    | '-' :: rest => (true, rest)
    | rest => (false, rest)
  match body with
  | [] => .error (.malformed .expectedValue cs.length)
  | c :: rest =>
    if c == '0' then finishNumber negative ['0'] rest
    else if isFigure c then
      finishNumber negative ((c :: rest).takeWhile isFigure) ((c :: rest).dropWhile isFigure)
    else .error (.malformed .expectedValue cs.length)

/-- A value that is one word or one number. -/
def readScalar : List Char → Reading Json
  | 'n' :: 'u' :: 'l' :: 'l' :: rest => .ok (.null, rest)
  | 't' :: 'r' :: 'u' :: 'e' :: rest => .ok (.bool true, rest)
  | 'f' :: 'a' :: 'l' :: 's' :: 'e' :: rest => .ok (.bool false, rest)
  | 'N' :: 'a' :: 'N' :: rest => .ok (.double .nan, rest)
  | 'I' :: 'n' :: 'f' :: 'i' :: 'n' :: 'i' :: 't' :: 'y' :: rest =>
    .ok (.double (.infinite false), rest)
  | '-' :: 'I' :: 'n' :: 'f' :: 'i' :: 'n' :: 'i' :: 't' :: 'y' :: rest =>
    .ok (.double (.infinite true), rest)
  | cs => readNumber cs

/-! ## Values -/

mutual

/-- The value that begins at a place. -/
def readValue : Nat → List Char → Reading Json
  | 0, cs => .error (.malformed .expectedValue cs.length)
  | _ + 1, [] => .error (.malformed .expectedValue 0)
  | fuel + 1, c :: rest =>
    if c == '"' then
      match readText rest with
      | .ok (s, rest) => .ok (.text s, rest)
      | .error stop => .error stop
    else if c == '{' then
      match skipGap rest with
      | '}' :: rest => .ok (.object [], rest)
      | rest => readMembers fuel [] rest
    else if c == '[' then
      match skipGap rest with
      | ']' :: rest => .ok (.array [], rest)
      | rest => readItems fuel [] rest
    else readScalar (c :: rest)

/-- The items of an array up to its bracket; `seen` are those before, reversed. -/
def readItems : Nat → List Json → List Char → Reading Json
  | 0, _, cs => .error (.malformed .expectedValue cs.length)
  | fuel + 1, seen, cs =>
    match readValue fuel cs with
    | .error stop => .error stop
    | .ok (v, rest) =>
      match skipGap rest with
      | ']' :: rest => .ok (.array (v :: seen).reverse, rest)
      | ',' :: rest => readItems fuel (v :: seen) (skipGap rest)
      | rest => .error (.malformed .expectedComma rest.length)

/-- The members of an object up to its brace; `seen` are those before, reversed. -/
def readMembers : Nat → List (String × Json) → List Char → Reading Json
  | 0, _, cs => .error (.malformed .expectedName cs.length)
  | fuel + 1, seen, cs =>
    match cs with
    | '"' :: rest =>
      match readText rest with
      | .error stop => .error stop
      | .ok (name, rest) =>
        match skipGap rest with
        | ':' :: rest =>
          match readValue fuel (skipGap rest) with
          | .error stop => .error stop
          | .ok (v, rest) =>
            match skipGap rest with
            | '}' :: rest => .ok (.object (Mapping.ofPairs ((name, v) :: seen).reverse), rest)
            | ',' :: rest => readMembers fuel ((name, v) :: seen) (skipGap rest)
            | rest => .error (.malformed .expectedComma rest.length)
        | rest => .error (.malformed .expectedColon rest.length)
    | cs => .error (.malformed .expectedName cs.length)

end

/-- The value that the characters are the text of.  Two steps for each
    character are fuel enough. -/
def readChars (cs : List Char) : Except Stop Json :=
  match readValue (2 * cs.length + 2) (skipGap cs) with
  | .error stop => .error stop
  | .ok (v, rest) =>
    match skipGap rest with
    | [] => .ok v
    | rest => .error (.malformed .extraData rest.length)

/-- The value that a text is the text of, where a byte-order mark is none of
    it. -/
def read (s : String) : Except ReadError Json :=
  let cs := s.toList
  match cs with
  | '\ufeff' :: _ => .error (.malformed .byteOrderMark (.after []))
  | _ => (readChars cs).mapError (Stop.locate cs)

/-! ## Values in bytes -/

/-- The text that bytes encode, in the encoding that their beginning shows: by
    its byte-order mark, else by where its zero bytes stand. -/
def textOfBytes? (bytes : ByteArray) : Option String :=
  match bytes.toList with
  | 0x00 :: 0x00 :: 0xfe :: 0xff :: rest => fromUtf32? .bigEndian rest
  | 0xff :: 0xfe :: 0x00 :: 0x00 :: rest => fromUtf32? .littleEndian rest
  | 0xfe :: 0xff :: rest => fromUtf16? .bigEndian rest
  | 0xff :: 0xfe :: rest => fromUtf16? .littleEndian rest
  | 0xef :: 0xbb :: 0xbf :: rest => fromUtf8? ⟨rest.toArray⟩
  | a :: b :: c :: d :: rest =>
    let all := a :: b :: c :: d :: rest
    if a == 0 then
      if b == 0 then fromUtf32? .bigEndian all else fromUtf16? .bigEndian all
    else if b == 0 then
      if c == 0 && d == 0 then fromUtf32? .littleEndian all else fromUtf16? .littleEndian all
    else fromUtf8? bytes
  | [a, b] =>
    if a == 0 then fromUtf16? .bigEndian [a, b]
    else if b == 0 then fromUtf16? .littleEndian [a, b]
    else fromUtf8? bytes
  | _ => fromUtf8? bytes

/-- Why bytes are not the text of a value: they are no text, or the text of
    none. -/
inductive BytesError where
  | undecodable
  | unreadable (e : ReadError)
  deriving DecidableEq, Repr

/-- The value that bytes are the text of. -/
def readBytes (bytes : ByteArray) : Except BytesError Json :=
  match textOfBytes? bytes with
  | none => .error .undecodable
  | some s =>
    let cs := s.toList
    (readChars cs).mapError fun stop => .unreadable (stop.locate cs)

/-- The value that bytes are the text of; none if they are none. -/
def readBytes? (bytes : ByteArray) : Option Json :=
  (readBytes bytes).toOption

end SpanQuest.Json
