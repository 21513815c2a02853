/-
  The labels of host names in any script.

  A label is written in ASCII: as it is, or `xn--` and the Punycode of its
  characters (`HostLabel.ofChars?`).  `HostLabel.isValid` says which labels
  there are: in composed form, without hyphens in the wrong places, not
  beginning with a mark, of permitted characters and of a few that are
  permitted next to certain others, and in one direction of writing.
-/
import SpanQuest.Address.Permitted
import SpanQuest.Text.Composition
import SpanQuest.Text.DecimalDigit
import SpanQuest.Text.Punycode

namespace SpanQuest.HostLabel

open Text

/-! ## Scripts -/

/-- A character of the Greek script. -/
def isGreek (c : Char) : Bool :=
  inRanges [(0x370, 0x3ff), (0x1f00, 0x1fff)] c.toNat

/-- A character of the Hebrew script. -/
def isHebrew (c : Char) : Bool :=
  inRanges [(0x591, 0x5f4), (0xfb1d, 0xfb4f)] c.toNat

/-- A character of the Japanese syllabaries or a Chinese character. -/
def isKanaOrHan (c : Char) : Bool :=
  inRanges [(0x2e80, 0x2fd5), (0x3005, 0x3005), (0x3007, 0x3007), (0x3021, 0x3029),
    (0x3038, 0x303b), (0x3041, 0x3096), (0x309d, 0x309f), (0x30a1, 0x30fa), (0x30fd, 0x30ff),
    (0x31f0, 0x31ff), (0x32d0, 0x3357), (0x3400, 0x4dbf), (0x4e00, 0x9fff), (0xf900, 0xfaff),
    (0xff66, 0xff6f), (0xff71, 0xff9d), (0x1b000, 0x1b16f), (0x20000, 0x323af)] c.toNat

/-- A digit of the Arabic script. -/
def isArabicDigit (c : Char) : Bool :=
  0x660 ≤ c.toNat && c.toNat ≤ 0x669

/-- A digit of the extended Arabic script. -/
def isExtendedArabicDigit (c : Char) : Bool :=
  0x6f0 ≤ c.toNat && c.toNat ≤ 0x6f9

/-! ## Characters in their places -/

/-- The combining class of the marks that end a consonant. -/
def viramaClass : Nat := 9

/-- A character that is permitted only next to certain others fits: `before` are
    the characters before it, reversed, and `after` those after it. -/
def fits (label before after : List Char) (c : Char) : Bool :=
  let n := c.toNat
  if n == 0x200c || n == 0x200d then before.head?.any fun d => combiningClass d == viramaClass
  else if n == 0xb7 then before.head? == some 'l' && after.head? == some 'l'
  else if n == 0x375 then after.head?.any isGreek
  else if n == 0x5f3 || n == 0x5f4 then before.head?.any isHebrew
  else if n == 0x30fb then label.any isKanaOrHan
  else if isArabicDigit c then !label.any isExtendedArabicDigit
  else if isExtendedArabicDigit c then !label.any isArabicDigit
  else false

/-- Each of the characters is permitted in its place. -/
def allFit (label before : List Char) : List Char → Bool
  | [] => true
  | c :: cs => (isPermitted c || fits label before cs c) && allFit label (c :: before) cs

/-- The permitted characters that are neither letters, marks nor digits: the
    hyphen, two signs of the Arabic script, a mark between syllables of the
    Tibetan one and a tilde. -/
def signs : List Nat := [0x2d, 0x6fd, 0x6fe, 0xf0b, 0x2e2f]

/-- The marks that identifiers may begin with. -/
def initialMarks : List Nat := [0x1885, 0x1886]

/-- A permitted character that is a mark. -/
def isMark (c : Char) : Bool :=
  isPermitted c &&
    (initialMarks.contains c.toNat ||
      (!isInitial c && !isDigit c && !signs.contains c.toNat))

/-! ## Directions -/

/-- The directions of characters. -/
inductive Direction where
  | leftToRight
  | rightToLeft
  | arabicNumber
  | europeanNumber
  | mark
  | other
  deriving DecidableEq, Repr

/-- The blocks of the scripts that go from right to left. -/
def rightToLeftBlocks : List (Nat × Nat) := [
  (0x590, 0x8ff), (0xfb1d, 0xfdff), (0xfe70, 0xfeff), (0x10800, 0x10fff), (0x1e800, 0x1efff)]

/-- The direction of a character of a label. -/
def directionOf (c : Char) : Direction :=
  let n := c.toNat
  if isArabicDigit c || (0x10d30 ≤ n && n ≤ 0x10d39) then .arabicNumber
  else if ('0' ≤ c && c ≤ '9') || isExtendedArabicDigit c then .europeanNumber
  else if c == '-' then .other
  else if isMark c then .mark
  else if inRanges rightToLeftBlocks n then .rightToLeft
  else if n == 0x2e2f || n == 0xb7 || n == 0x375 || n == 0x30fb || n == 0x200c || n == 0x200d then .other
  else .leftToRight

/-- The last direction that is not that of a mark. -/
def lastDirection? (directions : List Direction) : Option Direction :=
  directions.reverse.find? fun d => d != .mark

/-- A label with characters from right to left begins with such a letter, holds
    none from left to right, has numbers of one kind, and ends with a letter or
    a number. -/
def keepsDirection (label : List Char) : Bool :=
  let ds := label.map directionOf
  if !ds.any fun d => d == .rightToLeft || d == .arabicNumber then true
  else
    ds.head? == some .rightToLeft && !ds.contains .leftToRight &&
      !(ds.contains .arabicNumber && ds.contains .europeanNumber) &&
      (lastDirection? ds).any fun d => d != .other

/-! ## Labels -/

/-- No hyphen stands at an end, nor in the third and fourth place. -/
def hyphensFit (label : List Char) : Bool :=
  label.head? != some '-' && label.getLast? != some '-' && (label.drop 2).take 2 != ['-', '-']

/-- The characters are a label. -/
def isValid (label : List Char) : Bool :=
  !label.isEmpty && isComposed label && hyphensFit label && !label.head?.any isMark &&
    allFit label [] label && keepsDirection label

/-- What a label begins with that is written in Punycode. -/
def punycodeMark : List Char := ['x', 'n', '-', '-']

/-- The most characters of a label. -/
def longest : Nat := 63

/-- The label is written in ASCII and stands for a valid one. -/
def isWritten (label : List Char) : Bool :=
  if punycodeMark.isPrefixOf label then
    let rest := label.drop punycodeMark.length
    rest.getLast?.any (· != '-') && (Punycode.decode? rest).any isValid
  else isValid label

/-- A label in ASCII. -/
def ofChars? (label : List Char) : Option (List Char) :=
  let written := if label.all fun c => c.toNat < 0x80 then
      if isWritten label then some label else none
    else if isValid label then some (punycodeMark ++ Punycode.encode label)
    else none
  written.filter fun cs => cs.length ≤ longest

end SpanQuest.HostLabel
