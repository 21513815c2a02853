/-
  Disks: a small tree of files, as much of a file system as a store needs.

  A path is a list of names from a starting directory.  A name that is empty
  or a full stop counts for nothing, and two full stops lead from a directory
  to the one above.  A place on a disk holds a file or a directory, or nothing;
  a place below another makes that one a directory.  A path is walked name by
  name: what stands before a name has to be a directory, and a name must not be
  too long.  Nothing else keeps a file from being read or written: a disk is never
  full, and nobody is refused.

  * `Disk.look` is what a path leads to, if anything;
  * `Disk.write` makes the directories above a file and writes it, or says
    what is in the way.
-/
import SpanQuest.Trouble

namespace SpanQuest

/-! ## Paths -/

/-- A path, from the root or from the working directory. -/
structure Path where
  fromRoot : Bool
  names : List String
  deriving DecidableEq, Repr, Inhabited

/-- Where something lies: names from the root or from the working directory. -/
abbrev Place := List String

namespace Path

/-- The path that a text denotes. -/
def ofText (s : String) : Path where
  fromRoot := s.toList.head? == some '/'
  names := (s.splitOn "/").filter fun n => !(n.isEmpty || n == ".")

/-- The text of a path. -/
def text (p : Path) : String :=
  if p.fromRoot then "/" ++ "/".intercalate p.names
  else if p.names.isEmpty then "." else "/".intercalate p.names

/-- The directory that a path lies in. -/
def parent (p : Path) : Path :=
  { p with names := p.names.dropLast }

/-- The name that leads up. -/
def upName : String := ".."

/-- The place where a path begins. -/
def start (p : Path) : Place :=
  if p.fromRoot then ["/"] else []

/-- The place above a place.  Nothing is above the root; above the working
    directory there are others. -/
def above (place : Place) : Place :=
  if place == ["/"] then place
  else if place.all (· == upName) then place ++ [upName]
  else place.dropLast

/-- The place that a name leads to. -/
def next (place : Place) (name : String) : Place :=
  if name == upName then above place else place ++ [name]

/-- The place that a path leads to, if all its names do. -/
def place (p : Path) : Place :=
  p.names.foldl next p.start

/-- The most bytes of a name. -/
def nameLimit : Nat := 255

/-- The most bytes of a path. -/
def pathLimit : Nat := 4095

/-- A text that holds the NUL character. -/
def hasNul (s : String) : Bool :=
  s.toList.any fun c => c.toNat == 0

end Path

/-! ## Disks -/

/-- What a place holds. -/
inductive Node where
  | file (bytes : ByteArray)
  | directory
  deriving Inhabited

/-- What is in the way of a path. -/
inductive Obstacle where
  | missing
  | notDirectory
  /-- Something is there already. -/
  | taken
  | tooLong
  deriving DecidableEq, Repr

/-- The fault that an obstacle is, on the way of a path. -/
def Obstacle.fault (p : Path) : Obstacle → Fault
  | missing => .fileMissing p.text
  | notDirectory => .notDirectory p.text
  | taken => .fileExists p.text
  | tooLong => .nameTooLong p.text

/-- The places of a disk that hold something. -/
structure Disk where
  nodes : List (Place × Node)
  deriving Inhabited

namespace Disk

/-- A disk with nothing on it. -/
def empty : Disk := ⟨[]⟩

/-- The node at a place, if one was put there. -/
def nodeAt (d : Disk) (place : Place) : Option Node :=
  d.nodes.lookup place

/-- What a place holds.  A place is a directory if it is where paths start or
    above that, was made one, or has a place below it. -/
def content (d : Disk) (place : Place) : Option Node :=
  match d.nodeAt place with
  | some node => some node
  | none =>
    if place == ["/"] || place.all (· == Path.upName) ||
        d.nodes.any fun n => place.isPrefixOf n.1 && place.length < n.1.length
    then some .directory
    else none

/-- The disk with a node at a place. -/
def put (d : Disk) (place : Place) (node : Node) : Disk :=
  ⟨(place, node) :: d.nodes.filter fun n => n.1 != place⟩

/-- The disk with nothing at a place. -/
def remove (d : Disk) (place : Place) : Disk :=
  ⟨d.nodes.filter fun n => n.1 != place⟩

@[simp] theorem nodeAt_put_self (d : Disk) (place : Place) (node : Node) :
    (d.put place node).nodeAt place = some node := by
  simp [put, nodeAt]

@[simp] theorem content_put_self (d : Disk) (place : Place) (node : Node) :
    (d.put place node).content place = some node := by
  simp [content]

/-! ## Walking -/

/-- Follows a name from a place: the place it leads to, and what is there. -/
def follow (d : Disk) (place : Place) (name : String) : Except Obstacle (Place × Option Node) :=
  match d.content place with
  | none => .error .missing
  | some (.file _) => .error .notDirectory
  | some .directory =>
    if Path.nameLimit < name.utf8ByteSize then .error .tooLong
    else .ok (Path.next place name, d.content (Path.next place name))

/-- Follows names from a place to what they lead to. -/
def walk (d : Disk) (place : Place) : List String → Except Obstacle (Place × Option Node)
  | [] => .ok (place, d.content place)
  | name :: names =>
    match d.follow place name with
    | .error o => .error o
    | .ok (next, _) => d.walk next names

/-- Walks a path: the place it leads to, and what is there. -/
def find (d : Disk) (p : Path) : Except Obstacle (Place × Option Node) :=
  if Path.pathLimit < p.text.utf8ByteSize then .error .tooLong else d.walk p.start p.names

/-- What a path leads to; none if it leads nowhere.  A path that is too long is
    a fault. -/
def look (d : Disk) (p : Path) : Except Fault (Option Node) :=
  if Path.hasNul p.text then .ok none
  else
    match d.find p with
    | .ok (_, node) => .ok node
    | .error .tooLong => .error (.nameTooLong p.text)
    | .error _ => .ok none

/-- A path leads to a directory. -/
def hasDirectory (d : Disk) (p : Path) : Bool :=
  match d.look p with
  | .ok (some .directory) => true
  | _ => false

/-! ## Changing -/

/-- The disk with a new directory at a path. -/
def makeDirectory (d : Disk) (p : Path) : Except Obstacle Disk :=
  match d.find p with
  | .error o => .error o
  | .ok (_, some _) => .error .taken
  | .ok (place, none) => .ok (d.put place .directory)

/-- Makes a directory at a path of `depth` names, and at all places above it.
    What was made stays, even if it comes to nothing. -/
def makeDirectoriesFrom (d : Disk) : Nat → Path → Except Fault Unit × Disk
  | depth, p =>
    match d.makeDirectory p with
    | .ok made => (.ok (), made)
    | .error .missing =>
      match depth with
      | 0 => (.error (.fileMissing p.text), d)
      | depth + 1 =>
        match d.makeDirectoriesFrom depth p.parent with
        | (.error f, above) => (.error f, above)
        | (.ok (), above) =>
          match above.makeDirectory p with
          | .ok made => (.ok (), made)
          | .error o => (if above.hasDirectory p then .ok () else .error (o.fault p), above)
    | .error o => (if d.hasDirectory p then .ok () else .error (o.fault p), d)

/-- Makes a directory at a path, and at all places above it. -/
def makeDirectories (d : Disk) (p : Path) : Except Fault Unit × Disk :=
  if Path.hasNul p.text then (.error .nulCharacter, d) else d.makeDirectoriesFrom p.names.length p

/-- Writes a file at a path whose directory is there. -/
def writeFile (d : Disk) (p : Path) (bytes : ByteArray) : Except Fault Unit × Disk :=
  if Path.hasNul p.text then (.error .nulCharacter, d)
  else
    match d.find p with
    | .error o => (.error (o.fault p), d)
    | .ok (_, some .directory) => (.error (.isDirectory p.text), d)
    | .ok (place, _) => (.ok (), d.put place (.file bytes))

/-- Writes a file at a path, and makes the directories above it. -/
def write (d : Disk) (p : Path) (bytes : ByteArray) : Except Fault Unit × Disk :=
  match d.makeDirectories p.parent with
  | (.error f, made) => (.error f, made)
  | (.ok (), made) => made.writeFile p bytes

end Disk

end SpanQuest
