/-
  Quoted texts, as messages show them.

  A quoted text stands between single quotes, or between double quotes if it
  holds a single quote and no double one.  A backslash and the quote in use
  follow a backslash, the tab and the two line ends have their letters, and
  any other character that is not printable is its code point in two, four or
  eight hexadecimal digits.

  `escapeChar_length_le`: a character takes at most ten.
-/
import SpanQuest.Text.HexDigit
import SpanQuest.Text.Printable

namespace SpanQuest.Text

/-! ## Code points -/

/-- The code point of a character after a backslash: `x` and two digits, `u`
    and four, or `U` and eight, whichever is the first that suffices. -/
def codePointEscape (c : Char) : List Char :=
  let n := c.toNat
  if n < 0x100 then '\\' :: 'x' :: hexDigits 2 n
  else if n < 0x10000 then '\\' :: 'u' :: hexDigits 4 n
  else '\\' :: 'U' :: hexDigits 8 n

/-! ## Quoting -/

/-- The quote that a text stands between. -/
def quoteFor (cs : List Char) : Char :=
  if cs.contains '\'' && !cs.contains '"' then '"' else '\''

/-- A character between the quotes `quote`. -/
def escapeChar (quote c : Char) : List Char :=
  if c == quote || c == '\\' then ['\\', c]
  else if c == '\t' then ['\\', 't']
  else if c == '\n' then ['\\', 'n']
  else if c == '\r' then ['\\', 'r']
  else if isPrintable c then [c]
  else codePointEscape c

/-- A text between quotes. -/
def quotedChars (cs : List Char) : List Char :=
  let quote := quoteFor cs
  quote :: cs.flatMap (escapeChar quote) ++ [quote]

/-- A text between quotes. -/
def quoted (s : String) : String :=
  String.ofList (quotedChars s.toList)

theorem codePointEscape_length_le (c : Char) : (codePointEscape c).length ≤ 10 := by
  unfold codePointEscape
  dsimp only
  split
  · simp
  · split <;> simp

/-- A character takes at most ten between quotes. -/
theorem escapeChar_length_le (quote c : Char) : (escapeChar quote c).length ≤ 10 := by
  unfold escapeChar
  split
  · simp
  split
  · simp
  split
  · simp
  split
  · simp
  split
  · simp
  exact codePointEscape_length_le c

end SpanQuest.Text
