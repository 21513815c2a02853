/-
  Flaws of addresses: why a text is no address.
-/
import SpanQuest.Text.Quoted

namespace SpanQuest

/-- Why a text is no address. -/
inductive AddressFlaw where
  | tooLong
  /-- A control character of ASCII at a place. -/
  | unprintable (c : Char) (place : Nat)
  /-- The number after the host is none. -/
  | badPlaceNumber (given : String)
  /-- A host that looks like four numbers. -/
  | badFourNumbers (given : String)
  /-- A host between square brackets. -/
  | badBracketed (given : String)
  /-- A host with characters beyond ASCII. -/
  | badName (given : String)
  /-- The path after a host has to begin with a slash. -/
  | unrootedPath
  /-- A path without a host before it may not begin with two slashes. -/
  | emptyFirstName
  /-- A path without a scheme before it may not begin with a colon. -/
  | leadingColon
  deriving DecidableEq, Repr, Inhabited

/-- The wording of a flaw. -/
def AddressFlaw.message : AddressFlaw → String
  | tooLong => "URL too long"
  | unprintable c place =>
    let shown := String.ofList (Text.quotedChars [c])
    s!"Invalid non-printable ASCII character in URL, {shown} at position {place}."
  | badPlaceNumber given => s!"Invalid port: {Text.quoted given}"
  | badFourNumbers given => s!"Invalid IPv4 address: {Text.quoted given}"
  | badBracketed given => s!"Invalid IPv6 address: {Text.quoted given}"
  | badName given => s!"Invalid IDNA hostname: {Text.quoted given}"
  | unrootedPath => "For absolute URLs, path must be empty or begin with '/'"
  | emptyFirstName => "Relative URLs cannot have a path starting with '//'"
  | leadingColon => "Relative URLs cannot have a path starting with ':'"

end SpanQuest
