/-
  Composition: letters and marks put together again.

  `composedForm` takes a text apart into letters and marks, puts the marks in
  their order, and joins each letter with the marks after it wherever there is
  a character for both.  A text is composed if that changes nothing.
-/
import SpanQuest.Text.Decomposition

namespace SpanQuest.Text

/-! ## Pairs -/

/-- The characters that are made of two others but are never put together
    again. -/
def loneComposites : List Nat := [
  0x344, 0x958, 0x959, 0x95a, 0x95b, 0x95c, 0x95d, 0x95e, 0x95f, 0x9dc, 0x9dd, 0x9df, 0xa33, 0xa36,
  0xa59, 0xa5a, 0xa5b, 0xa5e, 0xb5c, 0xb5d, 0xf43, 0xf4d, 0xf52, 0xf57, 0xf5c, 0xf69, 0xf73, 0xf75,
  0xf76, 0xf78, 0xf81, 0xf93, 0xf9d, 0xfa2, 0xfa7, 0xfac, 0xfb9, 0xfb1d, 0xfb1f, 0xfb2a, 0xfb2b,
  0xfb2c, 0xfb2d, 0xfb2e, 0xfb2f, 0xfb30, 0xfb31, 0xfb32, 0xfb33, 0xfb34, 0xfb35, 0xfb36, 0xfb38,
  0xfb39, 0xfb3a, 0xfb3b, 0xfb3c, 0xfb3e, 0xfb40, 0xfb41, 0xfb43, 0xfb44, 0xfb46, 0xfb47, 0xfb48,
  0xfb49, 0xfb4a, 0xfb4b, 0xfb4c, 0xfb4d, 0xfb4e]

/-- The syllable of a leading consonant and a vowel, or of a syllable without a
    trailing consonant and one. -/
def syllableOf? (c d : Char) : Option Char :=
  let m := c.toNat
  let n := d.toNat
  if 0x1100 ≤ m && m < 0x1113 && 0x1161 ≤ n && n < 0x1176 then
    some (Char.ofNat (syllables.1 + ((m - 0x1100) * 21 + (n - 0x1161)) * 28))
  else if syllables.1 ≤ m && m < syllables.1 + syllables.2 && (m - syllables.1) % 28 == 0 &&
      0x11a8 ≤ n && n < 0x11c3 then
    some (Char.ofNat (m + (n - 0x11a7)))
  else none

/-- The character that two others make. -/
def pair? (c d : Char) : Option Char :=
  match syllableOf? c d with
  | some s => some s
  | none =>
    (canonicalComposites.find? fun e =>
      e.parts == [c.toNat, d.toNat] && !loneComposites.contains e.first).map fun e =>
        Char.ofNat e.first

/-! ## Putting together -/

/-- Joins the character `base` with what follows.  `kept` are the marks after
    it that found no partner, reversed, and `level` is the class of the last of
    them: only a mark of a higher class can still reach `base`. -/
def joinFrom (base : Char) (kept : List Char) (level : Nat) : List Char → List Char
  | [] => base :: kept.reverse
  | c :: cs =>
    let own := combiningClass c
    match if kept.isEmpty || level < own then pair? base c else none with
    | some joined => joinFrom joined kept level cs
    | none =>
      if own == 0 then base :: kept.reverse ++ joinFrom c [] 0 cs
      else joinFrom base (c :: kept) own cs

/-- Joins letters and the marks after them. -/
def join : List Char → List Char
  | [] => []
  | c :: cs =>
    if combiningClass c == 0 then joinFrom c [] 0 cs else c :: join cs

/-- The text in letters with their marks, as far as there are characters for
    them. -/
def composedForm (cs : List Char) : List Char :=
  join (sortMarks (decompose canonicalComposites cs))

/-- The text has its letters and marks in one piece. -/
def isComposed (cs : List Char) : Bool :=
  composedForm cs == cs

end SpanQuest.Text
