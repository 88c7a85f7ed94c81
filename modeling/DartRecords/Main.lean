import DartRecords.CommandLine.Render

/-!
# The executable

The command runs on a picture of those parts of the disk that its arguments name, and what has
changed in the picture afterwards is brought to the disk.
-/

namespace DartRecords.Executable

open CommandLine

/-- The place that the text of a path names. -/
def placeOf (workingDirectory : Place) (path : String) : Place :=
  Path.resolveNames workingDirectory path

/-- The text of a place. -/
def textOf (place : Place) : String := "/" ++ "/".intercalate place

/-- Adds what the disk has at a place to a picture; a place without anything stays empty. -/
def addPlace (fs : FileSystem) (place : Place) : IO FileSystem := do
  let found ← try some <$> IO.FS.realPath (textOf place) catch _ => pure none
  match found with
  | none => return fs
  | some path =>
    if ← path.isDir then return fs.put place .directory
    let content ← IO.FS.readBinFile path
    return fs.put place (.file content.toList)

/-- Adds a place and all places above it to a picture. -/
def addPath (fs : FileSystem) (place : Place) : IO FileSystem :=
  (List.range place.length).foldlM (fun fs n => addPlace fs (place.take (n + 1))) fs

/-- Adds all that is below a place, files without their content. -/
partial def addTree (fs : FileSystem) (place : Place) : IO FileSystem := do
  let found ← try some <$> IO.FS.realPath (textOf place) catch _ => pure none
  match found with
  | none => return fs
  | some path =>
    if !(← path.isDir) then return fs
    let entries ← path.readDir
    entries.foldlM (fun fs entry => do
      let below := place ++ [entry.fileName]
      if ← entry.path.isDir then addTree (fs.put below .directory) below
      else return fs.put below (.file [])) fs

/-- The paths that arguments name. -/
def namedPaths (args : Arguments) : List String :=
  [args.source, args.config, args.saveConfig, args.logFile, args.outputDir].filterMap fun
    | .str path => some path
    | _ => none

/-- A picture of the parts of the disk that arguments name. -/
def picture (args : Arguments) : IO FileSystem := do
  let workingDirectory := placeOf [] (← IO.currentDir).toString
  let fs ← addPath { workingDirectory } workingDirectory
  let fs ← match args.outputDir with
    | .str path => addTree fs (placeOf workingDirectory path)
    | _ => pure fs
  (namedPaths args).foldlM (fun fs path => addPath fs (placeOf workingDirectory path)) fs

/-- Brings a changed picture to the disk. -/
def store (old new : FileSystem) : IO Unit := do
  for (place, node) in new.nodes do
    if node = .directory && old.node? place ≠ some .directory then
      IO.FS.createDirAll (textOf place)
  for (place, node) in new.nodes do
    if let .file content := node then
      if old.node? place ≠ some node then
        IO.FS.writeBinFile (textOf place) content.toByteArray
  for (place, node) in old.nodes do
    if node ≠ .directory && (new.node? place).isNone then
      IO.FS.removeFile (textOf place)

/-- The moment now, as the files that stand for this process tell it. -/
def now : IO Log.Stamp := do
  try
    let found ← (← IO.FS.realPath "/proc/self").metadata
    return .ofMilliseconds
      (found.modified.sec.toNat * 1000 + found.modified.nsec.toNat / 1000000)
  catch _ => return {}

/-- All lines of standard input. -/
partial def readInput (stream : IO.FS.Stream) (soFar : String := "") : IO String := do
  let line ← stream.getLine
  if line.isEmpty then return soFar
  readInput stream (soFar ++ line)

/-- Shows how the command has ended, and gives its exit code. -/
def report : Ending → IO UInt32
  | .exit code => return code.toUInt32
  | .stopped .help => do
    IO.println helpText
    return 0
  | .stopped .version => do
    IO.println (programName ++ " " ++ programVersion)
    return 0
  | .stopped (.usage cause) => do
    IO.eprintln usageLine
    IO.eprintln (programName ++ ": error: " ++ cause.message)
    return 2
  | .fault cause => do
    IO.eprintln cause.message
    return 1

end DartRecords.Executable

open DartRecords DartRecords.CommandLine DartRecords.Executable in
/-- Runs the command. -/
def main (words : List String) : IO UInt32 := do
  let args := match parse words with
    | .ok args => args
    | .error _ => {}
  let old ← picture args
  let input ← if args.stdin then readInput (← IO.getStdin) else pure ""
  let (ending, console) := @run .usual .replaced { input, now := ← now } old words
  for entry in console.entries.reverse do
    IO.eprintln (entry.level.name ++ " " ++ entry.message)
  for printed in console.printed.reverse do
    IO.println printed.render
  store old console.files
  report ending
