/-
  Addresses: where something is posted to.

  `Address.read` takes a text apart into scheme, user, host, port number, path,
  query and fragment, and brings each into its usual form: letters of scheme
  and host are small, the usual number of a scheme is left out, names of one
  and two dots are taken out of the path, and what may not stand in a part is
  written by its bytes.  Hardly a text is refused: `AddressFlaw` has the
  reasons.

  `Address.text` writes an address.  One without a scheme or a host is not full
  (`Address.isFull`), and its path alone is what counts (`Address.target`).
-/
import SpanQuest.Address.Host
import SpanQuest.Json.Printer
import SpanQuest.Number.Reading
import SpanQuest.Text.Base64

namespace SpanQuest

/-- An address; a part that is missing is empty or `none`. -/
structure Address where
  scheme : List Char
  /-- The name and the secret of a user, with a colon between them. -/
  user : List Char
  host : List Char
  placeNumber : Option Int
  path : List Char
  query : Option (List Char)
  fragment : Option (List Char)
  deriving DecidableEq, Repr, Inhabited

namespace Address

open Text

/-! ## What stands in the parts -/

/-- A character of ASCII that prints, other than the blank and these. -/
def isPrintedBut (others : String) (c : Char) : Bool :=
  0x20 < c.toNat && c.toNat < 0x7f && !others.toList.contains c

/-- The characters of a fragment that are kept. -/
def inFragment : Char → Bool := isPrintedBut "\"<>`"

/-- The characters of a query that are kept. -/
def inQuery : Char → Bool := isPrintedBut "\"#<>"

/-- The characters of a path that are kept. -/
def inPath : Char → Bool := isPrintedBut "\"#<>?`\x7b\x7d"

/-- The characters of a user that are kept. -/
def inUser : Char → Bool := isPrintedBut "\"#<>?`\x7b\x7d/;=@[\\]^|"

/-! ## Taking apart -/

/-- A letter of ASCII. -/
def isLetter (c : Char) : Bool :=
  ('a' ≤ c && c ≤ 'z') || ('A' ≤ c && c ≤ 'Z')

/-- A character of a scheme, after its first. -/
def inScheme (c : Char) : Bool :=
  isLetter c || Host.isPlainDigit c || c == '+' || c == '.' || c == '-'

/-- The scheme before a colon, which may be empty, and what follows. -/
def splitScheme (cs : List Char) : List Char × List Char :=
  match cs.span inScheme with
  | (name, ':' :: rest) => if name.head?.all isLetter then (name, rest) else ([], cs)
  | _ => ([], cs)

/-- What stands between two slashes and the path, and what follows. -/
def splitAuthority : List Char → List Char × List Char
  | '/' :: '/' :: rest => rest.span fun c => c != '/' && c != '?' && c != '#'
  | cs => ([], cs)

/-- What follows a mark at the front. -/
def afterMark? (mark : Char) : List Char → Option (List Char)
  | c :: cs => if c == mark then some cs else none
  | [] => none

/-- The user before the last at sign, and what follows. -/
def splitUser (cs : List Char) : List Char × List Char :=
  if cs.contains '@' then
    let host := (cs.reverse.takeWhile (· != '@')).reverse
    (cs.take (cs.length - host.length - 1), host)
  else ([], cs)

/-- The host, up to the last closing bracket if it begins with an opening one,
    else up to a colon; and what follows. -/
def splitHost (cs : List Char) : List Char × List Char :=
  if cs.head? == some '[' && cs.contains ']' then
    let rest := (cs.reverse.takeWhile (· != ']')).reverse
    (cs.take (cs.length - rest.length), rest)
  else cs.span (· != ':')

/-- The usual numbers of schemes. -/
def usualNumbers : List (String × Int) :=
  [("ftp", 21), ("http", 80), ("https", 443), ("ws", 80), ("wss", 443)]

/-- The number after a host, unless it is empty or the usual one of the scheme. -/
def placeNumberOf (scheme cs : List Char) : Except AddressFlaw (Option Int) :=
  let given := String.ofList ((afterMark? ':' cs).getD cs)
  if given.isEmpty then .ok none
  else
    match Number.readInteger? given with
    | none => .error (.badPlaceNumber given)
    | some n => .ok (if usualNumbers.lookup (String.ofList scheme) == some n then none else some n)

/-- One name of a path, added to the names before it, reversed: two dots take
    the last of them away, unless only the front of the path is left. -/
def addName (names : List (List Char)) (name : List Char) : List (List Char) :=
  if name == ['.'] then names
  else if name == ['.', '.'] then if names == [[]] then names else names.drop 1
  else name :: names

/-- The path without names of one or two dots. -/
def withoutDots (path : List Char) : List Char :=
  let names := Host.splitBy (· == '/') path
  if names.contains ['.'] || names.contains ['.', '.'] then
    ['/'].intercalate (names.foldl addName []).reverse
  else path

/-- What is wrong with a path, depending on what stands before it. -/
def pathFlaw? (hasScheme hasAuthority : Bool) (path : List Char) : Option AddressFlaw :=
  if hasAuthority then
    if path.isEmpty || path.head? == some '/' then none else some .unrootedPath
  else if hasScheme then none
  else if path.take 2 == ['/', '/'] then some .emptyFirstName
  else if path.head? == some ':' then some .leadingColon
  else none

/-- The longest text that is an address. -/
def longest : Nat := 65536

/-- The first control character of ASCII and its place. -/
def unprintable? (cs : List Char) : Option (Char × Nat) :=
  let rest := cs.dropWhile fun c => 0x20 ≤ c.toNat && c.toNat != 0x7f
  rest.head?.map fun c => (c, cs.length - rest.length)

/-- The address that a text is. -/
def read (s : String) : Except AddressFlaw Address :=
  let cs := s.toList
  if longest < cs.length then .error .tooLong
  else
    match unprintable? cs with
    | some (c, place) => .error (.unprintable c place)
    | none =>
      let (scheme, rest) := splitScheme cs
      let (authority, rest) := splitAuthority rest
      let (path, rest) := rest.span fun c => c != '?' && c != '#'
      let (query, rest) := match afterMark? '?' rest with
        | some after => let (query, rest) := after.span (· != '#'); (some query, rest)
        | none => (none, rest)
      let fragment := afterMark? '#' rest
      let (user, place) := splitUser authority
      let (host, number) := splitHost place
      match Host.ofChars host with
      | .error flaw => .error flaw
      | .ok host =>
        match placeNumberOf scheme number with
        | .error flaw => .error flaw
        | .ok placeNumber =>
          let hasScheme := !scheme.isEmpty
          let hasAuthority := !user.isEmpty || !host.isEmpty || placeNumber.isSome
          match pathFlaw? hasScheme hasAuthority path with
          | some flaw => .error flaw
          | none =>
            .ok {
              scheme := scheme.map lowerAsciiChar
              user := percentEncode inUser user
              host := host
              placeNumber := placeNumber
              path := percentEncode inPath
                (if hasScheme || hasAuthority then withoutDots path else path)
              query := query.map (percentEncode inQuery)
              fragment := fragment.map (percentEncode inFragment) }

/-! ## Writing -/

/-- An address has a scheme and a host. -/
def isFull (a : Address) : Bool :=
  !a.scheme.isEmpty && !a.host.isEmpty

/-- A part after a mark, if there is one. -/
def marked (mark : Char) : Option (List Char) → List Char
  | some part => mark :: part
  | none => []

/-- Who the address belongs to. -/
def authority (a : Address) : List Char :=
  (if a.user.isEmpty then [] else a.user ++ ['@']) ++
    (if a.host.contains ':' then '[' :: a.host ++ [']'] else a.host) ++
    marked ':' (a.placeNumber.map Json.renderInt)

/-- The address as a text. -/
def text (a : Address) : String :=
  String.ofList ((if a.scheme.isEmpty then [] else a.scheme ++ [':']) ++
    (if a.authority.isEmpty then [] else '/' :: '/' :: a.authority) ++ a.path ++
    marked '?' a.query ++ marked '#' a.fragment)

/-- The path and the query with one slash in front. -/
def target (a : Address) : List Char :=
  '/' :: ((if a.path.isEmpty then ['/'] else a.path) ++ marked '?' a.query).dropWhile (· == '/')

/-- What is posted to: a full address, and of any other its path and query. -/
def place (a : Address) : String :=
  if a.isFull then a.text else String.ofList a.target

/-- The header that the user of a full address gives. -/
def authorization (a : Address) : Option String :=
  let (name, rest) := a.user.span (· != ':')
  let name := percentDecode name
  let secret := percentDecode (rest.drop 1)
  if !a.isFull || (name.isEmpty && secret.isEmpty) then none
  else some ("Basic " ++ String.ofList (base64 (name ++ ":" ++ secret).toUTF8.toList))

end Address

end SpanQuest
