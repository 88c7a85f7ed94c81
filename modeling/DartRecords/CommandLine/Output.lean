import DartRecords.Dart.SourceFile
import DartRecords.FileSystem.Basic

/-!
# Writing generated files

All files are first written beside their places, under temporary names, and are moved into their
places only when every one of them could be written.
-/

namespace DartRecords.CommandLine

/-- A file that has been written under a temporary name. -/
structure Staged where
  temporary : Path
  target : Path
  deriving DecidableEq, Repr

/-- Why a file cannot be written. -/
inductive WriteError where
  | file (cause : FileError)
  /-- The path of the file has no name at its end. -/
  | noName
  deriving DecidableEq, Repr

/-- Writes one file under a temporary name, in a directory that is made if it is missing. -/
def stageFile (fs : FileSystem) (directory : Path) (file : Dart.SourceFile) :
    Except WriteError Staged × FileSystem :=
  let target := directory.append (Path.ofString file.path)
  match target.withName? (target.name ++ ".tmp") with
  | none => (.error .noName, fs)
  | some temporary =>
    match fs.ensureDirectories target.parent with
    | (.error e, fs) => (.error (.file e), fs)
    | (.ok (), fs) =>
      match fs.write temporary file.code with
      | .error e => (.error (.file e), fs)
      | .ok fs => (.ok ⟨temporary, target⟩, fs)

/-- What staging comes to: the files that have been staged, and the fault that ended it, if any. -/
structure Staging where
  staged : List Staged
  fault : Option WriteError
  files : FileSystem

/-- Stages files one after another, up to the first that cannot be written. -/
def stageFiles (fs : FileSystem) (directory : Path) : List Dart.SourceFile → Staging
  | [] => ⟨[], none, fs⟩
  | file :: rest =>
    match stageFile fs directory file with
    | (.error e, fs) => ⟨[], some e, fs⟩
    | (.ok one, fs) =>
      let others := stageFiles fs directory rest
      { others with staged := one :: others.staged }

/-- Removes staged files. -/
def discard (fs : FileSystem) : List Staged → FileSystem
  | [] => fs
  | one :: rest =>
    match fs.unlink one.temporary with
    | .ok fs => discard fs rest
    | .error _ => discard fs rest

/-- What publishing comes to: the files that are in their places, and the fault that ended it. -/
structure Publishing where
  written : List Path
  fault : Option WriteError
  files : FileSystem

/-- Moves staged files into their places, up to the first that cannot be moved. -/
def publish (fs : FileSystem) : List Staged → Publishing
  | [] => ⟨[], none, fs⟩
  | one :: rest =>
    match fs.move one.temporary one.target with
    | .error e => ⟨[], some (.file e), fs⟩
    | .ok fs =>
      let others := publish fs rest
      { others with written := one.target :: others.written }

/-- Whether a fault comes from the file system, which is when staged files are removed. -/
def WriteError.isFileFault : WriteError → Bool
  | .file (.failed ..) => true
  | .file (.notMoved ..) => true
  | _ => false

/-- Writes files into a directory. -/
def writeFiles (fs : FileSystem) (directory : Path) (files : List Dart.SourceFile) : Publishing :=
  let staging := stageFiles fs directory files
  match staging.fault with
  | some e =>
    let fs := if e.isFileFault then discard staging.files staging.staged else staging.files
    ⟨[], some e, fs⟩
  | none => publish staging.files staging.staged

end DartRecords.CommandLine
