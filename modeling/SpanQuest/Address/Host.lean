/-
  Hosts: who an address belongs to.

  A host is four numbers, a numeric address between square brackets, or a
  name.  `Host.ofChars` checks the first two, and writes a name in small
  letters of ASCII: a name with other characters label by label, and in a name
  of ASCII what may not stand there by its bytes.
-/
import SpanQuest.Address.Flaw
import SpanQuest.Address.HostLabel
import SpanQuest.Text.LetterCase
import SpanQuest.Text.PercentEncoding

namespace SpanQuest.Host

open Text

/-! ## Pieces -/

/-- The pieces between the separators; one more than there are separators. -/
def splitBy (isSeparator : Char → Bool) : List Char → List (List Char)
  | [] => [[]]
  | c :: cs =>
    if isSeparator c then [] :: splitBy isSeparator cs
    else
      match splitBy isSeparator cs with
      | piece :: pieces => (c :: piece) :: pieces
      | [] => [[c]]

/-- A digit of ASCII. -/
def isPlainDigit (c : Char) : Bool :=
  '0' ≤ c && c ≤ '9'

/-! ## Four numbers -/

/-- What may be reached of four runs of digits by one more character: the runs
    that are still to come, and whether the run under way has a digit.  Any
    character may stand between two runs. -/
def advance (c : Char) (state : Nat × Bool) : List (Nat × Bool) :=
  let (left, started) := state
  (if isPlainDigit c then [(left, true)] else []) ++
    (if started && 0 < left then [(left - 1, false)] else [])

/-- The text is four runs of digits with a character between them. -/
def looksLikeFourNumbers (cs : List Char) : Bool :=
  (cs.foldl (fun states c => (states.flatMap (advance c)).eraseDups) [(3, false)]).contains (0, true)

/-- A number from 0 to 255, without zeros in front. -/
def isByteText (cs : List Char) : Bool :=
  !cs.isEmpty && cs.length ≤ 3 && cs.all isPlainDigit && (cs == ['0'] || cs.head? != some '0') &&
    digitsValue cs ≤ 255

/-- Four numbers from 0 to 255 with dots between them. -/
def isFourNumbers (cs : List Char) : Bool :=
  let pieces := splitBy (· == '.') cs
  pieces.length == 4 && pieces.all isByteText

/-! ## Numeric addresses between brackets -/

/-- One to four hexadecimal digits. -/
def isGroup (cs : List Char) : Bool :=
  !cs.isEmpty && cs.length ≤ 4 && cs.all fun c => (hexValue? c).isSome

/-- The groups, where four numbers at the end stand for two of them; `none` if
    what has a dot is no such numbers. -/
def groupsOf? (cs : List Char) : Option (List (List Char)) :=
  let pieces := splitBy (· == ':') cs
  let last := pieces.getLastD []
  if pieces.length < 3 then none
  else if last.contains '.' then
    if isFourNumbers last then some (pieces.dropLast ++ [['0'], ['0']]) else none
  else some pieces

/-- The groups are eight, or fewer with one gap of empty groups, which is at an
    end if that end is empty. -/
def groupsFit (groups : List (List Char)) : Bool :=
  let inner := (groups.drop 1).dropLast
  let gaps := inner.countP List.isEmpty
  let first := groups.headD []
  let last := groups.getLastD []
  if 9 < groups.length then false
  else if gaps == 0 then groups.length == 8 && groups.all isGroup
  else
    let before := groups.takeWhile fun g => !g.isEmpty
    let after := (groups.reverse.takeWhile fun g => !g.isEmpty).reverse
    gaps == 1 &&
      (!first.isEmpty || (inner.headD []).isEmpty) &&
      (!last.isEmpty || (inner.getLastD []).isEmpty) &&
      before.length + after.length ≤ 7 && before.all isGroup && after.all isGroup

/-- A numeric address; a percent sign and the name of a scope may follow. -/
def isBracketed (cs : List Char) : Bool :=
  let (address, scope) := cs.span (· != '%')
  let scopeFits := match scope with
    | [] => true
    | _ :: name => !name.isEmpty && !name.contains '%'
  scopeFits && (groupsOf? address).any groupsFit

/-! ## Names -/

/-- The characters that stand between labels. -/
def separatesLabels (c : Char) : Bool :=
  c == '.' || c == Char.ofNat 0x3002 || c == Char.ofNat 0xff0e || c == Char.ofNat 0xff61

/-- The most characters of a name, without a dot at its end. -/
def longestName : Nat := 253

/-- A name of labels in ASCII; its last label may be empty. -/
def nameOf? (cs : List Char) : Option (List Char) :=
  let labels := splitBy separatesLabels cs
  let rooted := (labels.getLastD []).isEmpty
  let proper := if rooted then labels.dropLast else labels
  match proper.mapM HostLabel.ofChars? with
  | none => none
  | some written =>
    let name := ['.'].intercalate written
    if name.length ≤ longestName then some (if rooted then name ++ ['.'] else name) else none

/-- The characters that stand for themselves everywhere in an address. -/
def isUnreserved (c : Char) : Bool :=
  ('a' ≤ c && c ≤ 'z') || ('A' ≤ c && c ≤ 'Z') || isPlainDigit c || "-._~".toList.contains c

/-- The characters of a name of ASCII that are kept. -/
def isKept (c : Char) : Bool :=
  isUnreserved c || "!$&'()*+,;=\"`\x7b\x7d%|\\".toList.contains c

/-! ## All hosts -/

/-- A host as it is written, without brackets. -/
def ofChars (cs : List Char) : Except AddressFlaw (List Char) :=
  if cs.isEmpty then .ok []
  else if looksLikeFourNumbers cs then
    if isFourNumbers cs then .ok cs else .error (.badFourNumbers (String.ofList cs))
  else if cs.head? == some '[' && cs.getLast? == some ']' then
    let inner := (cs.drop 1).dropLast
    if isBracketed inner then .ok inner else .error (.badBracketed (String.ofList cs))
  else if cs.all fun c => c.toNat < 0x80 then .ok (percentEncode isKept (cs.map lowerAsciiChar))
  else
    match nameOf? (lower cs) with
    | some name => .ok name
    | none => .error (.badName (String.ofList cs))

end SpanQuest.Host
