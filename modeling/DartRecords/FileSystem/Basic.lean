import DartRecords.Path.Basic
import DartRecords.Text.Quoted
import DartRecords.Text.Utf8

/-!
# File systems

A file system is a finite map from places to files and directories, together with a working
directory.  A place is the list of names from the root down to it; the root itself is always a
directory.  Operations fail for the usual reasons and then change nothing.  There are no
permissions: every file may be read and written, and every directory may be searched.

A file that has been opened for appending stays the same file when it is moved, and it can no
longer be seen once it has been removed or replaced.
-/

namespace DartRecords

/-- What is at a place. -/
inductive FileNode where
  | file (content : List UInt8)
  | directory
  deriving DecidableEq, Repr

/-- A place: the names from the root down to it. -/
abbrev Place := List String

/-- Files and directories, and the directory in which relative paths start. -/
structure FileSystem where
  nodes : List (Place × FileNode) := []
  workingDirectory : Place := []
  /-- Where the files are that have been opened for appending, in the order of opening; none for a
  file that has been removed or replaced. -/
  opened : List (Option Place) := []
  deriving DecidableEq, Repr

/-- The usual reasons for a failure. -/
inductive Errno where
  | noEntry
  | busy
  | exists
  | notDirectory
  | isDirectory
  | nameTooLong
  deriving DecidableEq, Repr

namespace Errno

/-- The number of a reason. -/
def number : Errno → Nat
  | .noEntry => 2
  | .busy => 16
  | .exists => 17
  | .notDirectory => 20
  | .isDirectory => 21
  | .nameTooLong => 36

/-- The words for a reason. -/
def words : Errno → String
  | .noEntry => "No such file or directory"
  | .busy => "Device or resource busy"
  | .exists => "File exists"
  | .notDirectory => "Not a directory"
  | .isDirectory => "Is a directory"
  | .nameTooLong => "File name too long"

end Errno

/-- Why an operation on files fails. -/
inductive FileError where
  | failed (reason : Errno) (path : Path)
  /-- A file cannot be moved. -/
  | notMoved (reason : Errno) (path target : Path)
  /-- A path holds a null character. -/
  | nullCharacter
  deriving DecidableEq, Repr

/-- The message of a failure. -/
def FileError.message : FileError → String
  | .failed reason path =>
    "[Errno " ++ toString reason.number ++ "] " ++ reason.words ++ ": "
      ++ Text.quote path.toString
  | .notMoved reason path target =>
    "[Errno " ++ toString reason.number ++ "] " ++ reason.words ++ ": "
      ++ Text.quote path.toString ++ " -> " ++ Text.quote target.toString
  | .nullCharacter => "embedded null byte"

/-- Whether a path holds a null character. -/
def Path.hasNull (p : Path) : Bool := p.parts.any fun part => part.toList.contains '\x00'

/-- The most bytes that a name may have. -/
def maxNameSize : Nat := 255

/-- The most bytes that the text of a path may have. -/
def maxPathSize : Nat := 4095

namespace FileSystem

/-- What is at a place. -/
def node? (fs : FileSystem) (place : Place) : Option FileNode :=
  if place.isEmpty then some .directory else fs.nodes.lookup place

/-- Puts a node at a place. -/
def put (fs : FileSystem) (place : Place) (node : FileNode) : FileSystem :=
  { fs with nodes := (place, node) :: fs.nodes.filter (·.1 ≠ place) }

/-- Removes what is at a place. -/
def remove (fs : FileSystem) (place : Place) : FileSystem :=
  { fs with nodes := fs.nodes.filter (·.1 ≠ place) }

/-- Follows names from a place.  Every place on the way has to be a directory, and only in a
directory does the length of a name matter. -/
def walk (fs : FileSystem) (place : Place) : List String → Except Errno Place
  | [] => .ok place
  | name :: rest =>
    match fs.node? place with
    | none => .error .noEntry
    | some (.file _) => .error .notDirectory
    | some .directory =>
      if maxNameSize < name.utf8ByteSize then .error .nameTooLong
      else fs.walk (if name = ".." then place.dropLast else place ++ [name]) rest

/-- The place that a path leads to, which need not hold anything. -/
def locate (fs : FileSystem) (p : Path) : Except Errno Place :=
  if maxPathSize < p.toString.utf8ByteSize then .error .nameTooLong
  else fs.walk (if p.isAbsolute then [] else fs.workingDirectory) p.parts

/-- What a path leads to.  A path that is too long is a failure, any other path that leads nowhere
is not. -/
def lookup (fs : FileSystem) (p : Path) : Except FileError (Option FileNode) :=
  if p.hasNull then .ok none
  else match fs.locate p with
    | .ok place => .ok (fs.node? place)
    | .error .nameTooLong => .error (.failed .nameTooLong p)
    | .error _ => .ok none

/-- Whether a path leads to a file or a directory. -/
def contains (fs : FileSystem) (p : Path) : Except FileError Bool :=
  (fs.lookup p).map Option.isSome

/-- Whether a path leads to a directory. -/
def isDirectory (fs : FileSystem) (p : Path) : Bool :=
  match fs.lookup p with
  | .ok (some .directory) => true
  | _ => false

/-- The content of a file. -/
def read (fs : FileSystem) (p : Path) : Except FileError (List UInt8) :=
  if p.hasNull then .error .nullCharacter
  else match fs.locate p with
    | .error reason => .error (.failed reason p)
    | .ok place =>
      match fs.node? place with
      | none => .error (.failed .noEntry p)
      | some .directory => .error (.failed .isDirectory p)
      | some (.file content) => .ok content

/-- Changes the content of a file by a function of its present content, if it exists. -/
def edit (fs : FileSystem) (p : Path) (change : Option (List UInt8) → List UInt8) :
    Except FileError FileSystem :=
  if p.hasNull then .error .nullCharacter
  else match fs.locate p with
    | .error reason => .error (.failed reason p)
    | .ok place =>
      match fs.node? place with
      | none => .ok (fs.put place (.file (change none)))
      | some .directory => .error (.failed .isDirectory p)
      | some (.file content) => .ok (fs.put place (.file (change (some content))))

/-- Writes a text as the whole content of a file. -/
def write (fs : FileSystem) (p : Path) (text : String) : Except FileError FileSystem :=
  fs.edit p fun _ => Text.Utf8.encode text

/-- Writes a text at the end of a file. -/
def append (fs : FileSystem) (p : Path) (text : String) : Except FileError FileSystem :=
  fs.edit p fun content => content.getD [] ++ Text.Utf8.encode text

/-- Opens a file for appending, and gives its number.  A file that is not there is made. -/
def openFile (fs : FileSystem) (p : Path) : Except FileError (Nat × FileSystem) := do
  let fs ← fs.append p ""
  match fs.locate p with
  | .error reason => .error (.failed reason p)
  | .ok place => .ok (fs.opened.length, { fs with opened := fs.opened ++ [some place] })

/-- Writes a text at the end of an opened file.  Nothing shows of a file that is nowhere. -/
def appendTo (fs : FileSystem) (number : Nat) (text : String) : FileSystem :=
  match fs.opened[number]? with
  | some (some place) =>
    match fs.node? place with
    | some (.file content) => fs.put place (.file (content ++ Text.Utf8.encode text))
    | _ => fs
  | _ => fs

/-- Makes one directory. -/
def makeDirectory (fs : FileSystem) (p : Path) : Except FileError FileSystem :=
  if p.hasNull then .error .nullCharacter
  else match fs.locate p with
    | .error reason => .error (.failed reason p)
    | .ok place =>
      match fs.node? place with
      | some _ => .error (.failed .exists p)
      | none => .ok (fs.put place .directory)

/-- Makes a directory unless it is there. -/
def ensureDirectory (fs : FileSystem) (p : Path) : Except FileError FileSystem :=
  match fs.makeDirectory p with
  | .ok fs => .ok fs
  | .error e => if e ≠ .nullCharacter && fs.isDirectory p then .ok fs else .error e

/-- Makes a directory unless it is there, after those above it that are missing; at most `fuel`
of them. What has been made stays when a later step fails. -/
def ensureDirectoriesWithin (fuel : Nat) (fs : FileSystem) (p : Path) :
    Except FileError Unit × FileSystem :=
  match fs.makeDirectory p with
  | .ok fs => (.ok (), fs)
  | .error (.failed .noEntry q) =>
    match fuel with
    | 0 => (.error (.failed .noEntry q), fs)
    | fuel + 1 =>
      match ensureDirectoriesWithin fuel fs p.parent with
      | (.error e, fs) => (.error e, fs)
      | (.ok (), fs) =>
        match fs.ensureDirectory p with
        | .ok fs => (.ok (), fs)
        | .error e => (.error e, fs)
  | .error e => if e ≠ .nullCharacter && fs.isDirectory p then (.ok (), fs) else (.error e, fs)

/-- Makes a directory and all directories above it that are missing. -/
def ensureDirectories (fs : FileSystem) (p : Path) : Except FileError Unit × FileSystem :=
  ensureDirectoriesWithin p.parts.length fs p

/-- Where an opened file is after a move: the file that is moved goes along, and the file that is
replaced is gone. -/
def afterMove (source place : Place) : Option Place → Option Place
  | none => none
  | some here =>
    if here = source then some place else if here = place then none else some here

/-- Where an opened file is after a file has been removed. -/
def afterRemoval (place : Place) : Option Place → Option Place
  | none => none
  | some here => if here = place then none else some here

/-- Moves what is at one place to another, replacing a file there. -/
def moveNode (fs : FileSystem) (source place : Place) : Except Errno FileSystem :=
  match fs.node? source, fs.node? place with
  | none, _ => .error .noEntry
  | some _, some .directory => .error .isDirectory
  | some node, _ =>
    .ok (if place = source then fs
      else { (fs.remove source).put place node with
             opened := fs.opened.map (afterMove source place) })

/-- Moves a file, replacing a file at the target.  Neither path may end by leading upwards. -/
def move (fs : FileSystem) (p target : Path) : Except FileError FileSystem :=
  if p.hasNull || target.hasNull then .error .nullCharacter
  else
    let moved := do
      let source ← fs.locate p
      let place ← fs.locate target
      if p.name = ".." || target.name = ".." then .error .busy else fs.moveNode source place
    moved.mapError fun reason => .notMoved reason p target

/-- Removes a file; a file that is not there is no failure. -/
def unlink (fs : FileSystem) (p : Path) : Except FileError FileSystem :=
  if p.hasNull then .error .nullCharacter
  else match fs.locate p with
    | .error .noEntry => .ok fs
    | .error reason => .error (.failed reason p)
    | .ok place =>
      match fs.node? place with
      | none => .ok fs
      | some .directory => .error (.failed .isDirectory p)
      | some (.file _) =>
        .ok { fs.remove place with opened := fs.opened.map (afterRemoval place) }

end FileSystem

end DartRecords
