/-
  Percent encoding: the bytes of characters as hexadecimal digits.

  * `percentEncode` keeps some characters and writes each byte of any other as
    a percent sign and two capital digits;
  * `percentDecode` reads such bytes back, and everything else as it stands.
-/
import SpanQuest.Text.Encoding
import SpanQuest.Text.HexDigit

namespace SpanQuest.Text

/-! ## Writing -/

/-- The capital hexadecimal digit of a number below sixteen. -/
def capitalHexDigit (n : Nat) : Char :=
  if n < 10 then Char.ofNat (0x30 + n) else Char.ofNat (0x37 + n)

/-- The bytes of a character. -/
def bytesOf (c : Char) : List UInt8 :=
  (String.singleton c).toUTF8.toList

/-- A byte as a percent sign and two digits. -/
def percentByte (b : UInt8) : List Char :=
  ['%', capitalHexDigit (b.toNat / 16), capitalHexDigit (b.toNat % 16)]

/-- The text with each character that is not kept written by its bytes. -/
def percentEncode (kept : Char → Bool) (cs : List Char) : List Char :=
  cs.flatMap fun c => if kept c then [c] else (bytesOf c).flatMap percentByte

/-! ## Reading -/

/-- The bytes of a text, where a percent sign and two digits are one byte. -/
def percentDecodeBytes : List Char → List UInt8
  | [] => []
  | '%' :: a :: b :: rest =>
    match hexValue? a, hexValue? b with
    | some high, some low => UInt8.ofNat (16 * high + low) :: percentDecodeBytes rest
    | _, _ => bytesOf '%' ++ percentDecodeBytes (a :: b :: rest)
  | c :: rest => bytesOf c ++ percentDecodeBytes rest

/-- The text that a percent encoding stands for. -/
def percentDecode (cs : List Char) : String :=
  fromUtf8Lossy ⟨(percentDecodeBytes cs).toArray⟩

end SpanQuest.Text
