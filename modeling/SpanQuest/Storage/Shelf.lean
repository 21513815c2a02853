/-
  Shelves: a store of keys and values, with the disk that it stands on.

  A store in memory is its mapping.  A store in a file is one JSON object: it
  is read when the store is first used, and written as a whole after every
  change.  What it holds in memory changes first, so that a failed write
  leaves the change in memory.

  * a file that is missing, is no JSON or is no object reads as empty, and the
    values of an object read as texts;
  * a file that is no text, or has an integer that is too long, fails the
    first use of the store, as does a path that is too long, and the store is
    empty from then on.
-/
import SpanQuest.Json.Display
import SpanQuest.Json.Printer
import SpanQuest.Storage.Disk

namespace SpanQuest

/-- A store of keys and values. -/
inductive Store where
  | memory (data : Mapping Json)
  /-- A store in a file; `cache` is none until the file was read. -/
  | file (path : Path) (cache : Option (Mapping Json))
  deriving Inhabited

/-- A store, with the disk that it stands on. -/
structure Shelf where
  store : Store
  disk : Disk
  deriving Inhabited

namespace Shelf

/-- The mapping that a file holds. -/
def decode (bytes : ByteArray) : Except Fault (Mapping Json) :=
  match String.fromUTF8? bytes with
  | none => .error (.notText ((Text.firstMalformed? bytes).getD default))
  | some s =>
    match Json.read s with
    | .error (.tooManyDigits count) => .error (.digitLimit count)
    | .error (.malformed ..) => .ok []
    | .ok (.object members) => .ok (members.map fun p => (p.1, .text p.2.display))
    | .ok _ => .ok []

/-- The bytes of the file that holds a mapping. -/
def encode (data : Mapping Json) : ByteArray :=
  (Json.renderIndented (.object data)).toUTF8

/-- The mapping in the file of a path. -/
def stored (disk : Disk) (path : Path) : Except Fault (Mapping Json) :=
  match disk.look path with
  | .error f => .error f
  | .ok (some (.file bytes)) => decode bytes
  | .ok _ => .ok []

/-- The mapping that the store holds; the first use reads the file. -/
def data (s : Shelf) : Except Fault (Mapping Json) :=
  match s.store with
  | .memory data => .ok data
  | .file _ (some data) => .ok data
  | .file path none => stored s.disk path

/-- The shelf after a use of the store: the file was read. -/
def used (s : Shelf) : Shelf :=
  match s.store with
  | .file path none => { s with store := .file path (some ((stored s.disk path).toOption.getD [])) }
  | _ => s

/-- The shelf whose store holds `data`, and what came of writing it. -/
def replace (s : Shelf) (data : Mapping Json) : Except Fault Unit × Shelf :=
  match s.store with
  | .memory _ => (.ok (), { s with store := .memory data })
  | .file path _ =>
    let (written, disk) := s.disk.write path (encode data)
    (written, ⟨.file path (some data), disk⟩)

/-- The value of a key. -/
def get (s : Shelf) (key : String) : Except Fault (Option Json) × Shelf :=
  (s.data.map (Mapping.get? key), s.used)

/-- Sets the value of a key. -/
def set (s : Shelf) (key : String) (value : Json) : Except Fault Unit × Shelf :=
  match s.data with
  | .error f => (.error f, s.used)
  | .ok data => s.replace (Mapping.put key value data)

/-- Drops a key.  A file is written only if the key had a value other than null. -/
def delete (s : Shelf) (key : String) : Except Fault Unit × Shelf :=
  match s.data with
  | .error f => (.error f, s.used)
  | .ok data =>
    match s.store, Mapping.get? key data with
    | .file path _, none => (.ok (), { s with store := .file path (some data) })
    | .file path _, some .null => (.ok (), { s with store := .file path (some (Mapping.erase key data)) })
    | _, _ => s.replace (Mapping.erase key data)

/-- The shelf with a fresh store on the same file; a store in memory stays. -/
def reopen (s : Shelf) : Shelf :=
  match s.store with
  | .memory _ => s
  | .file path _ => { s with store := .file path none }

end Shelf

end SpanQuest
