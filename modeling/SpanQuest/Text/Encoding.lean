/-
  Texts from bytes.

  * `utf8Pieces` cuts bytes into the characters of UTF-8; `none` marks a
    malformed stretch, which is a byte that starts no character, or the
    longest beginning of a character that does not go on;
  * `fromUtf8?` refuses malformed bytes, `fromUtf8Lossy` replaces each
    malformed stretch by U+FFFD, and `firstMalformed?` tells where the first
    one is and what is wrong with it;
  * `fromUtf16?` and `fromUtf32?` read units of two and four bytes.

  Three-byte forms and lone units of surrogates are let through where a reader
  asks for it.  A text holds no surrogate, so that U+FFFD stands in for one.
-/
namespace SpanQuest.Text

/-- The character that stands in for what is no character. -/
def replacement : Char := '\ufffd'

/-- The character of a code point; U+FFFD for a surrogate. -/
def charOf (n : Nat) : Char :=
  if h : n.isValidChar then Char.ofNatAux n h else replacement

/-! ## UTF-8 -/

/-- A character under way: how many bytes are still owed, the range of the next
    one, and the value of the bits so far. -/
structure Pending where
  owed : Nat
  low : Nat
  high : Nat
  value : Nat

/-- What a byte starts: a character of its own (`inl`), a longer one (`inr`),
    or nothing.  With `surrogates`, the forms of surrogates are let through. -/
def utf8Start (surrogates : Bool) (b : Nat) : Option (Char ⊕ Pending) :=
  if b < 0x80 then some (.inl (charOf b))
  else if 0xc2 ≤ b && b ≤ 0xdf then some (.inr ⟨1, 0x80, 0xbf, b - 0xc0⟩)
  else if b == 0xe0 then some (.inr ⟨2, 0xa0, 0xbf, 0⟩)
  else if b == 0xed && !surrogates then some (.inr ⟨2, 0x80, 0x9f, 0xd⟩)
  else if 0xe1 ≤ b && b ≤ 0xef then some (.inr ⟨2, 0x80, 0xbf, b - 0xe0⟩)
  else if b == 0xf0 then some (.inr ⟨3, 0x90, 0xbf, 0⟩)
  else if 0xf1 ≤ b && b ≤ 0xf3 then some (.inr ⟨3, 0x80, 0xbf, b - 0xf0⟩)
  else if b == 0xf4 then some (.inr ⟨3, 0x80, 0x8f, 4⟩)
  else none

/-- The characters of bytes, in order, and `none` for each malformed stretch. -/
def utf8Pieces (surrogates : Bool) : Option Pending → List UInt8 → List (Option Char)
  | none, [] => []
  | some _, [] => [none]
  | none, b :: bs =>
    match utf8Start surrogates b.toNat with
    | some (.inl c) => some c :: utf8Pieces surrogates none bs
    | some (.inr p) => utf8Pieces surrogates (some p) bs
    | none => none :: utf8Pieces surrogates none bs
  | some p, b :: bs =>
    if p.low ≤ b.toNat && b.toNat ≤ p.high then
      let value := 64 * p.value + b.toNat % 64
      if p.owed ≤ 1 then some (charOf value) :: utf8Pieces surrogates none bs
      else utf8Pieces surrogates (some ⟨p.owed - 1, 0x80, 0xbf, value⟩) bs
    else
      match utf8Start surrogates b.toNat with
      | some (.inl c) => none :: some c :: utf8Pieces surrogates none bs
      | some (.inr q) => none :: utf8Pieces surrogates (some q) bs
      | none => none :: none :: utf8Pieces surrogates none bs

/-- The text that bytes encode, where the forms of surrogates pass. -/
def fromUtf8? (bytes : ByteArray) : Option String :=
  match String.fromUTF8? bytes with
  | some s => some s
  | none => ((utf8Pieces true none bytes.toList).mapM id).map String.ofList

/-- What was encoded is read back. -/
theorem fromUTF8?_toUTF8 (s : String) : String.fromUTF8? s.toUTF8 = some s := by
  unfold String.fromUTF8?
  rw [String.toUTF8_eq_toByteArray, dif_pos s.isValidUTF8]
  rfl

theorem fromUtf8?_toUTF8 (s : String) : fromUtf8? s.toUTF8 = some s := by
  rw [fromUtf8?, fromUTF8?_toUTF8]

/-- The text that bytes encode, with U+FFFD for each malformed stretch. -/
def fromUtf8Lossy (bytes : ByteArray) : String :=
  match String.fromUTF8? bytes with
  | some s => s
  | none => String.ofList ((utf8Pieces false none bytes.toList).map (·.getD replacement))

theorem fromUtf8Lossy_toUTF8 (s : String) : fromUtf8Lossy s.toUTF8 = s := by
  rw [fromUtf8Lossy, fromUTF8?_toUTF8]

/-- What is wrong with a malformed stretch. -/
inductive MalformedKind where
  | badStart
  | badContinuation
  | endsEarly
  deriving DecidableEq, Repr, Inhabited

/-- A malformed stretch: its first byte, its place, and the place after it. -/
structure Malformed where
  kind : MalformedKind
  byte : UInt8
  start : Nat
  stop : Nat
  deriving DecidableEq, Repr, Inhabited

/-- The first malformed stretch from a place on.  `underWay` is the character under
    way there, with its first byte and the place of that. -/
def firstMalformedFrom (underWay : Option (Pending × UInt8 × Nat)) (place : Nat) :
    List UInt8 → Option Malformed
  | [] => underWay.map fun (_, byte, start) => ⟨.endsEarly, byte, start, place⟩
  | b :: bs =>
    match underWay with
    | some (p, byte, start) =>
      if p.low ≤ b.toNat && b.toNat ≤ p.high then
        let further := if p.owed ≤ 1 then none
          else some (⟨p.owed - 1, 0x80, 0xbf, p.value⟩, byte, start)
        firstMalformedFrom further (place + 1) bs
      else some ⟨.badContinuation, byte, start, place⟩
    | none =>
      match utf8Start false b.toNat with
      | some (.inl _) => firstMalformedFrom none (place + 1) bs
      | some (.inr p) => firstMalformedFrom (some (p, b, place)) (place + 1) bs
      | none => some ⟨.badStart, b, place, place + 1⟩

/-- The first malformed stretch of bytes. -/
def firstMalformed? (bytes : ByteArray) : Option Malformed :=
  firstMalformedFrom none 0 bytes.toList

/-! ## Units of two and four bytes -/

/-- The order of the bytes of a unit. -/
inductive ByteOrder where
  | bigEndian
  | littleEndian
  deriving DecidableEq

/-- The number that two bytes denote. -/
def ByteOrder.pair : ByteOrder → UInt8 → UInt8 → Nat
  | .bigEndian, a, b => 256 * a.toNat + b.toNat
  | .littleEndian, a, b => 256 * b.toNat + a.toNat

/-- The units of two bytes each; `none` if a byte is left over. -/
def units16 (order : ByteOrder) : List UInt8 → Option (List Nat)
  | [] => some []
  | a :: b :: rest => (units16 order rest).map (order.pair a b :: ·)
  | [_] => none

/-- The characters of units of two bytes: a high and a low surrogate in a row
    are one character, and a surrogate on its own passes. -/
def charsOfUnits16 : List Nat → List Char
  | [] => []
  | [u] => [charOf u]
  | u :: v :: rest =>
    if 0xd800 ≤ u && u < 0xdc00 && 0xdc00 ≤ v && v < 0xe000 then
      charOf (0x10000 + (u - 0xd800) * 0x400 + (v - 0xdc00)) :: charsOfUnits16 rest
    else charOf u :: charsOfUnits16 (v :: rest)

/-- The text of units of two bytes. -/
def fromUtf16? (order : ByteOrder) (bytes : List UInt8) : Option String :=
  (units16 order bytes).map fun us => String.ofList (charsOfUnits16 us)

/-- The characters of units of four bytes; `none` if bytes are left over or a
    unit is no code point. -/
def charsOfUnits32 (order : ByteOrder) : List UInt8 → Option (List Char)
  | [] => some []
  | a :: b :: c :: d :: rest =>
    let n := match order with
      | .bigEndian => 65536 * order.pair a b + order.pair c d
      | .littleEndian => 65536 * order.pair c d + order.pair a b
    if n < 0x110000 then (charsOfUnits32 order rest).map (charOf n :: ·) else none
  | _ => none

/-- The text of units of four bytes. -/
def fromUtf32? (order : ByteOrder) (bytes : List UInt8) : Option String :=
  (charsOfUnits32 order bytes).map String.ofList

end SpanQuest.Text
