import DartRecords.FileSystem.Basic
import DartRecords.Json.Display
import DartRecords.Json.Equality
import DartRecords.Log.Entry
import DartRecords.Log.Stamp
import DartRecords.Path.Relative
import DartRecords.Text.Case

/-!
# The logger

One logger, for the package, decides which entries are written and where.  Setting it up adds a
handler for the console and, if asked for, one for a file; later set-ups only change the level.
The file is opened once: entries go to the end of that file, wherever it is by then.
-/

namespace DartRecords.Log

/-- Where entries are written. -/
inductive Handler where
  | console
  /-- The number of a file that is opened for appending. -/
  | file (number : Nat)
  deriving DecidableEq, Repr

/-- The logger of the package. -/
structure Logger where
  /-- The level as it was set: a number, or a boolean, which counts as one or zero. -/
  level : Json := .int 0
  handlers : List Handler := []
  propagates : Bool := true
  configured : Bool := false
  /-- The moment that lines in files carry. -/
  moment : Stamp := {}
  deriving DecidableEq, Repr

/-- Why a logger cannot be set up. -/
inductive SetupError where
  | unknownLevel (name : String)
  | mismatch (cause : Mismatch)
  | file (cause : FileError)
  deriving DecidableEq, Repr

/-- The message about a level without a number. -/
def SetupError.message : SetupError → String
  | .unknownLevel name => "Unknown log level: Level " ++ name
  | .mismatch cause => cause.detail
  | .file cause => cause.message

/-! ## Levels -/

/-- The number of a level's name. -/
def levelNumber? : String → Option Int
  | "CRITICAL" => some 50
  | "FATAL" => some 50
  | "ERROR" => some 40
  | "WARN" => some 30
  | "WARNING" => some 30
  | "INFO" => some 20
  | "DEBUG" => some 10
  | "NOTSET" => some 0
  | _ => none

/-- The name of a level's number. -/
def levelName : Int → String
  | 50 => "CRITICAL"
  | 40 => "ERROR"
  | 30 => "WARNING"
  | 20 => "INFO"
  | 10 => "DEBUG"
  | 0 => "NOTSET"
  | n => "Level " ++ toString n

/-- The level that a value stands for: a name in any case, or a number. -/
def levelOf : Json → Except SetupError Json
  | .str s =>
    let name := String.ofList (Text.upper s.toList)
    match levelNumber? name with
    | some n => .ok (.int n)
    | none => .error (.unknownLevel name)
  | .int n => .ok (.int n)
  | .bool b => .ok (.bool b)
  | v => .error (.mismatch (.wrongType ("Level not an integer or a valid string: " ++ v.quote)))

namespace Logger

/-- The number of the logger's level. -/
def number (logger : Logger) : Int :=
  match logger.level with
  | .int n => n
  | .bool true => 1
  | _ => 0

/-- The least number that is written: that of the logger, or that of warnings if it has none. -/
def threshold (logger : Logger) : Int :=
  if logger.number = 0 then Level.warning.number else logger.number

/-- Whether entries of a level are written. -/
def isEnabled (logger : Logger) (number : Int) : Bool :=
  0 < number && logger.threshold ≤ number

/-! ## Setting up -/

/-- The handler for a file, which is opened for appending; no file is asked for by an empty
value. -/
def openFile (fs : FileSystem) (file : Json) :
    Except SetupError (List Handler × FileSystem) :=
  if !file.truthy then .ok ([], fs)
  else match file with
    | .str name =>
      let path : Path := ⟨"/", Path.resolveNames fs.workingDirectory name⟩
      match fs.openFile path with
      | .ok (number, fs) => .ok ([.file number], fs)
      | .error e => .error (.file e)
    | v => .error (.mismatch v.notAPath)

/-- Sets up the logger.  A failure leaves what was done before it: a level that is known has been
set, and the handler for the console is there when the file cannot be opened. -/
def setup (logger : Logger) (fs : FileSystem) (level : Json := .str "WARNING")
    (file : Json := .null) : Except SetupError Unit × Logger × FileSystem :=
  match levelOf level with
  | .error e => (.error e, logger, fs)
  | .ok level =>
    let logger := { logger with level }
    if logger.configured then (.ok (), logger, fs)
    else
      let logger := { logger with handlers := logger.handlers ++ [.console] }
      match openFile fs file with
      | .error e => (.error e, logger, fs)
      | .ok (handlers, fs) =>
        (.ok (),
          { logger with
            handlers := logger.handlers ++ handlers, propagates := false, configured := true },
          fs)

/-! ## Writing -/

/-- Whether a logger of this name passes its entries on to the package's logger. -/
def covers (name : String) : Bool :=
  name = packageName || (packageName ++ ".").toList.isPrefixOf name.toList

/-- Writes a line into the files of all handlers. -/
def writeLine (fs : FileSystem) (line : String) : List Handler → FileSystem
  | [] => fs
  | .console :: rest => writeLine fs line rest
  | .file number :: rest => writeLine (fs.appendTo number line) line rest

/-- The line about a message of a level under the name of a logger. -/
def line (logger : Logger) (name level text : String) : String :=
  logger.moment.toText ++ " " ++ name ++ " " ++ level ++ " " ++ text ++ "\n"

/-- Writes a message of a level under the name of a logger, if that is enabled. -/
def write (logger : Logger) (fs : FileSystem) (name : String) (number : Int) (text : String)
    (level : String := levelName number) : FileSystem :=
  if covers name && logger.isEnabled number then
    writeLine fs (logger.line name level text) logger.handlers
  else fs

end Logger

end DartRecords.Log
