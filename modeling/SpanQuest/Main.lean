/-
  The program: a command line, run on the files and the variables that there
  are.

  Only this module reads and writes.  It gathers what a command needs, lets
  `CommandLine.run` decide, and carries out what it says: print, write the
  store, end with a number.

  The program opens no connection.  Whoever starts it carries the exchange
  with a backend: a post goes to the error output as a line of JSON, and the
  answer comes from the standard input, the status on one line and the body on
  the next.  Without an answer the backend cannot be reached.  A service says
  where it would listen, and ends.
-/
import SpanQuest.CommandLine.Run
import Std.Time.DateTime.Timestamp

namespace SpanQuest.Program

open Backend CommandLine

/-! ## What there is -/

/-- The variables that the program looks at. -/
def readEnvironment : IO Environment :=
  Profile.variableNames.filterMapM fun name => do
    let value ← IO.getEnv name
    return value.map fun v => (name, v)

/-- What a path leads to. -/
def readNode (path : Path) : IO (Option Node) := do
  match ← (IO.FS.readBinFile path.text).toBaseIO with
  | .ok bytes => return some (.file bytes)
  | .error _ =>
    match ← (IO.FS.realPath path.text).toBaseIO with
    | .ok _ => return some .directory
    | .error _ => return none

/-- The disk with what a path leads to. -/
def readInto (disk : Disk) (path : Path) : IO Disk := do
  match ← readNode path with
  | some node => return disk.put path.place node
  | none => return disk

/-- The places above a path, the highest first. -/
def above (path : Path) : List Path :=
  (List.range path.names.length).tail.map fun n => { path with names := path.names.take n }

/-- The present moment. -/
def readClock : IO Moment := do
  let now ← Std.Time.Timestamp.now
  return ⟨now.toNanosecondsSinceUnixEpoch.val / 1000⟩

/-- What a command finds. -/
def readWorld (c : Command) : IO World := do
  let environment ← readEnvironment
  let disk ← (variableFiles environment c).foldlM readInto Disk.empty
  let world : World := ⟨disk, environment, ← readClock⟩
  match storeOf? world c with
  | none => return world
  | some path => return { world with disk := ← (above path ++ [path]).foldlM readInto disk }

/-! ## What is done -/

/-- Has a post carried, and gives the answer. -/
def exchange (post : Post) : IO Answer := do
  let line := Json.object [("method", .text Post.method), ("url", .text post.url),
    ("authorization", .ofOption post.authorization), ("content_type", .text Post.contentType),
    ("body", post.body)]
  IO.eprintln line.render
  let input ← IO.getStdin
  match Number.readInteger (← input.getLine) with
  | .value status => return .response status (← input.getLine).toUTF8
  | _ => return .unreachable ""

/-- Writes what a path leads to now, if it was something else before. -/
def writeBack (before after : Disk) (path : Path) : IO Unit := do
  match after.nodeAt path.place with
  | some (.file bytes) =>
    let same := match before.nodeAt path.place with
      | some (.file old) => old.toList == bytes.toList
      | _ => false
    if !same then
      IO.FS.createDirAll path.parent.text
      IO.FS.writeBinFile path.text bytes
  | _ => return ()

/-- Carries out the end of a command. -/
def finish (world : World) (c : Command) (e : Ending) : IO UInt32 := do
  match storeOf? world c with
  | some path => writeBack world.disk e.disk path
  | none => pure ()
  IO.print e.out
  IO.eprint e.err
  match e.escaped with
  | some t => IO.eprintln t.message
  | none => pure ()
  return e.exitCode.toUInt32

/-- Runs a command: what it posts is carried first, if it posts anything. -/
def runCommand (c : Command) (arguments : List String) : IO UInt32 := do
  let world ← readWorld c
  match (run world arguments fun _ => none).posts with
  | [] => finish world c (run world arguments fun _ => none)
  | post :: _ =>
    let answer ← exchange post
    finish world c (run world arguments fun _ => some answer)

end SpanQuest.Program

/-- Runs the command of a command line. -/
def main (arguments : List String) : IO UInt32 := do
  match SpanQuest.CommandLine.Command.read? arguments with
  | some c => SpanQuest.Program.runCommand c arguments
  | none =>
    IO.eprintln "usage: ask QUESTION | history | settings | serve"
    return 2
