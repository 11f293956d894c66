import Rebalance.Run.Program
import Std.Time

/-!
# The command `diskbalancer-plan`

The files a run may read are taken from the disk before it, and what it has written is put back
after it.  The answers of nodes come from the standard input, one on each line.
-/

namespace Rebalance
namespace Disk

/-- The bytes of a file on the disk, if it can be read. -/
def diskBytes? (path : String) : IO (Option (List Nat)) := do
  try
    let bytes ← IO.FS.readBinFile path
    return some (bytes.toList.map UInt8.toNat)
  catch _ =>
    return none

/-- A tree with a folder at a location and at every location on the way to it. -/
def withFolders (t : Files.Tree) (l : Files.Location) : Files.Tree :=
  (List.range l.length).foldl
    (fun t i =>
      let place := l.take (i + 1)
      if (t.entry? place).isSome then t else t.set place .folder)
    t

/-- A tree with a file of the disk. -/
def withDiskFile (t : Files.Tree) (p : Files.Path) : IO Files.Tree := do
  match ← diskBytes? p.text with
  | none => return t
  | some content =>
    let place := t.start p ++ p.names
    return (withFolders t place.dropLast).set place (.file content)

/-- The variables of the environment that a run looks at: the columns of the screen, and settings.
-/
def environmentVariables : IO (List (String × String)) := do
  let mut found := []
  for name in "COLUMNS" :: Run.Settings.names.flatMap fun n => [Text.lower n, n] do
    match ← IO.getEnv name with
    | some value => found := found ++ [(name, Text.ofString value)]
    | none => found := found
  return found

/-- The files that a run with these words and this environment may read. -/
def diskTree (words : List String) (environment : List (String × String)) : IO Files.Tree := do
  let working := (Files.Path.ofString (← IO.currentDir).toString).names
  let t ← withDiskFile ⟨[], working⟩ Run.Lookup.usualFile
  match Run.Arguments.read words, Run.Settings.load t environment [] with
  | .ok a, .ok s =>
    match a.clusterUri, s.clusterUri with
    | some (.value uri), _ => withDiskFile t (.ofString uri)
    | _, some p => withDiskFile t p
    | _, none => return t
  | _, _ => return t

/-- The greatest width of a template's field that is given room. -/
def fieldRoom : Nat :=
  2 ^ 32

/-- Puts the entries of a tree that are not in another one onto the disk. -/
def storeChanges (old new : Files.Tree) : IO Unit := do
  for (place, entry) in new.entries do
    if old.entry? place = some entry then continue
    let path := "/" ++ Text.joined "/" place
    match entry with
    | .folder => IO.FS.createDirAll path
    | .file content => IO.FS.writeBinFile path (ByteArray.mk (content.map UInt8.ofNat).toArray)

/-- The lines of the standard input as answers of nodes. -/
partial def readAnswers (input : IO.FS.Stream) : IO (List Net.Outcome) := do
  let line ← input.getLine
  if line.isEmpty then return []
  return .answered 200 (Text.ofString line) :: (← readAnswers input)

/-- The time of the clock. -/
def clockTime : IO Time.Moment := do
  let t ← Std.Time.PlainDateTime.now
  return ⟨t.date.year.toInt.toNat, t.date.month.val.toNat, t.date.day.val.toNat,
    t.hour.val.toNat, t.minute.val.toNat, t.time.second.val.toNat,
    t.nanosecond.val.toNat / 1000, none⟩

/-- A time at the head of a line of the log. -/
def logStamp (t : Time.Moment) : String :=
  let two (n : Nat) := String.ofList (Decimal.filled 2 n)
  String.ofList (Decimal.filled 4 t.year) ++ "-" ++ two t.month ++ "-" ++ two t.day ++ " "
    ++ two t.hour ++ ":" ++ two t.minute ++ ":" ++ two t.second ++ ","
    ++ String.ofList (Decimal.filled 3 (t.micro / 1000))

/-- The exit code of a result; a failure without a code of its own is printed. -/
def exitCode : Except Failure Unit → IO UInt32
  | .ok () => return 0
  | .error (.exit code) => return UInt32.ofNat code
  | .error f => do
    IO.eprintln (Text.shown f.message)
    return 1

end Disk
end Rebalance

open Rebalance Disk in
/-- Runs the program on the disk. -/
def main (arguments : List String) : IO UInt32 := do
  let words := arguments.map Text.ofString
  let environment ← environmentVariables
  let files ← diskTree words environment
  let answers ← match Run.Arguments.read words with
    | .ok _ => readAnswers (← IO.getStdin)
    | .error _ => pure []
  let now ← clockTime
  let ending := Run.Program.run fieldRoom (logStamp now) words environment
    ⟨files, ⟨answers, []⟩, now, []⟩
  IO.print (Text.shown ending.output.out)
  IO.eprint (Text.shown ending.output.err)
  storeChanges files ending.world.files
  exitCode ending.result
