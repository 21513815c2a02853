/-
  Texts in JSON read back.

  A text is written character by character, each of them as it is or after a
  backslash, and a character beyond the first plane as two units of UTF-16.
  The reader takes one character of the text for each of these pieces.

  * `readTextFrom_escapeChar`: the reader takes what is written for a character
    to be that character;
  * `readText_renderText`: a text that was written between quotes reads back,
    whatever follows it.
-/
import SpanQuest.Json.Printer
import SpanQuest.Json.Reader

namespace SpanQuest.Json

open SpanQuest.Text

/-! ## Units -/

theorem charOf_toNat (c : Char) : charOf c.toNat = c := by
  have hvalid : c.toNat.isValidChar := c.valid
  unfold charOf
  rw [dif_pos hvalid]
  rfl

theorem hexQuad?_hexDigits {n : Nat} (h : n < 0x10000) :
    ∃ a b c d, hexDigits 4 n = [a, b, c, d] ∧ hexQuad? a b c d = some n := by
  refine ⟨_, _, _, _, rfl, ?_⟩
  simp only [hexQuad?, hexValue?_hexDigit (Nat.mod_lt _ (by omega : 0 < 16))]
  congr 1
  omega

theorem toNat_cases (c : Char) : c.toNat < 0xd800 ∨ 0xdfff < c.toNat ∧ c.toNat < 0x110000 :=
  c.valid

theorem readCodePoint_unit {n : Nat} (h : n < 0xd800 ∨ 0xdfff < n ∧ n < 0x10000) (e : Char)
    (rest : List Char) : readCodePoint (hexDigits 4 n ++ e :: rest) = .ok (charOf n, e :: rest) := by
  obtain ⟨i, j, k, l, hdigits, hquad⟩ := hexQuad?_hexDigits (n := n) (by omega)
  simp only [hdigits, List.cons_append, List.nil_append, readCodePoint, hquad]
  rw [if_neg (by simp; omega)]

theorem readCodePoint_pair {high low : Nat} (hhigh : 0xd800 ≤ high ∧ high < 0xdc00)
    (hlow : 0xdc00 ≤ low ∧ low < 0xe000) (e : Char) (rest : List Char) :
    readCodePoint (hexDigits 4 high ++ (unitEscape low ++ e :: rest)) =
      .ok (charOf (0x10000 + (high - 0xd800) * 0x400 + (low - 0xdc00)), e :: rest) := by
  obtain ⟨i, j, k, l, hdigits, hquad⟩ := hexQuad?_hexDigits (n := high) (by omega)
  obtain ⟨i', j', k', l', hdigits', hquad'⟩ := hexQuad?_hexDigits (n := low) (by omega)
  simp only [unitEscape, hdigits, hdigits', List.cons_append, List.nil_append, readCodePoint, hquad]
  rw [if_pos (by simpa using hhigh)]
  simp only [readLowHalf, hquad']
  rw [if_pos (by simpa using hlow)]

/-! ## Texts -/

/-- **What is written for a character reads as that character**; a character
    has to follow it. -/
theorem readTextFrom_escapeChar (start fuel : Nat) (seen : List Char) (c e : Char)
    (rest : List Char) :
    readTextFrom start (fuel + 1) seen (escapeChar c ++ e :: rest) =
      readTextFrom start fuel (c :: seen) (e :: rest) := by
  have short {letter : Char} (h : shortEscape? letter = some c) (hu : letter ≠ 'u') :
      readTextFrom start (fuel + 1) seen (['\\', letter] ++ e :: rest) =
        readTextFrom start fuel (c :: seen) (e :: rest) := by
    simp [readTextFrom, readEscape, h]
  have long {cs : List Char} (h : readCodePoint cs = .ok (c, e :: rest)) :
      readTextFrom start (fuel + 1) seen ('\\' :: 'u' :: cs) =
        readTextFrom start fuel (c :: seen) (e :: rest) := by
    simp [readTextFrom, readEscape, h]
  have hcases := toNat_cases c
  unfold escapeChar
  dsimp only
  -- the quote, the backslash and the five controls with a letter
  iterate 7
    split
    · next hc => exact short (by rw [eq_of_beq hc]; rfl) (by decide)
  split
  · next hquote hslash _ _ _ _ _ hvisible =>
    have hcontrol : ¬ c.toNat < 0x20 := by
      simp only [Bool.and_eq_true, decide_eq_true_eq] at hvisible
      omega
    simp only [List.singleton_append, readTextFrom, if_neg hquote, if_neg hslash, if_neg hcontrol]
  split
  · exact long ((readCodePoint_unit (by omega) e rest).trans (by rw [charOf_toNat]))
  · have hpair : 0x10000 + (0xd800 + (c.toNat - 0x10000) / 0x400 - 0xd800) * 0x400 +
        (0xdc00 + (c.toNat - 0x10000) % 0x400 - 0xdc00) = c.toNat := by omega
    rw [List.append_assoc]
    exact long ((readCodePoint_pair (by omega) (by omega) e rest).trans (by rw [hpair, charOf_toNat]))

/-- The characters of a text, up to its closing quote; one step for each, and
    one for the quote, are fuel enough. -/
theorem readTextFrom_flatMap (start : Nat) (cs seen rest : List Char) {fuel : Nat}
    (hfuel : cs.length < fuel) :
    readTextFrom start fuel seen (cs.flatMap escapeChar ++ '"' :: rest) =
      .ok (seen.reverse ++ cs, rest) := by
  induction cs generalizing seen fuel with
  | nil =>
    obtain ⟨fuel, rfl⟩ := Nat.exists_eq_add_of_lt hfuel
    simp [readTextFrom]
  | cons c cs ih =>
    obtain ⟨fuel, rfl⟩ : ∃ n, fuel = n + 1 := ⟨fuel - 1, by omega⟩
    -- a quote or the first character of another piece follows
    obtain ⟨e, after, hafter⟩ : ∃ e after, cs.flatMap escapeChar ++ '"' :: rest = e :: after := by
      rcases cs.flatMap escapeChar with _ | ⟨e, after⟩
      · exact ⟨'"', rest, rfl⟩
      · exact ⟨e, after ++ '"' :: rest, rfl⟩
    rw [List.flatMap_cons, List.append_assoc, hafter, readTextFrom_escapeChar, ← hafter,
      ih (c :: seen) (by simpa using hfuel)]
    simp

theorem length_le_flatMap_escapeChar (cs : List Char) :
    cs.length ≤ (cs.flatMap escapeChar).length := by
  induction cs with
  | nil => exact Nat.le_refl 0
  | cons c cs ih =>
    have hone : 0 < (escapeChar c).length := by
      unfold escapeChar unitEscape
      dsimp only
      repeat' split
      all_goals simp
    rw [List.flatMap_cons, List.length_append, List.length_cons]
    omega

/-- **A text between quotes reads back**, whatever follows it. -/
theorem readText_renderText (s : String) (rest : List Char) :
    ∃ after, renderText s ++ rest = '"' :: after ∧ readText after = .ok (s, rest) := by
  refine ⟨s.toList.flatMap escapeChar ++ '"' :: rest, by simp [renderText], ?_⟩
  have hfuel := length_le_flatMap_escapeChar s.toList
  unfold readText
  rw [readTextFrom_flatMap _ s.toList [] rest (by rw [List.length_append]; omega)]
  simp

end SpanQuest.Json
