import DartRecords.Config.Basic
import DartRecords.FileSystem.Document
import DartRecords.Json.Limit
import DartRecords.Text.Case

/-!
# Loading and saving configurations

A configuration starts from the defaults of a language, takes the settings of a JSON file, and
then those that are given directly.  Saving writes all settings, the custom ones among them, into
one JSON object.
-/

namespace DartRecords.Config

/-- Why a configuration cannot be loaded or saved. -/
inductive Error where
  | notFound (path : Path)
  | notJsonFile (path : Path)
  | invalidJson (path : Path) (message : String)
  | unreadable (path : Path) (cause : FileError)
  | notAnObject (path : Path)
  | unwritable (path : Path) (cause : FileError)
  /-- The file is not encoded in UTF-8. -/
  | encoding (cause : Text.Utf8.Error)
  /-- It cannot even be told whether the file exists. -/
  | inaccessible (cause : FileError)
  | mismatch (cause : Mismatch)
  deriving DecidableEq, Repr

/-- The message of a fault. -/
def Error.message : Error → String
  | .notFound path => "Configuration file not found: " ++ path.toString
  | .notJsonFile path => "Configuration file must be JSON: " ++ path.toString
  | .invalidJson path message =>
    "Invalid JSON in configuration file " ++ path.toString ++ ": " ++ message
  | .unreadable path cause =>
    "Failed to load configuration file " ++ path.toString ++ ": " ++ cause.message
  | .notAnObject path => "Configuration file must contain a JSON object: " ++ path.toString
  | .unwritable path cause =>
    "Failed to save configuration to " ++ path.toString ++ ": " ++ cause.message
  | .encoding cause => cause.message
  | .inaccessible cause => cause.message
  | .mismatch cause => cause.detail

/-- Lifts an operation on a loose value. -/
def ofValue {α : Type} (result : Except Mismatch α) : Except Error α := result.mapError .mismatch

/-- The languages that have defaults. -/
def languages : List String := ["dart"]

/-- The default settings of Dart. -/
def dartDefaults : Json.Members :=
  [("indent_size", .int 2), ("use_tabs", .bool false), ("add_banner", .bool true),
   ("emit_constants", .bool true), ("client_package", .str "soia")]

/-- The default settings of a language; other languages have none of their own. -/
def languageDefaults (language : Json) : Except Error Table :=
  if !language.hashable then .error (.mismatch language.unhashable)
  else match language with
    | .str "dart" => .ok (Table.ofMembers dartDefaults)
    | _ => .ok []

variable [Limits] [Json.LoneHalves]

/-- The settings in a file that exists. -/
def readExisting (fs : FileSystem) (path : Path) : Except Error Json.Members :=
  if Text.lower path.extension.toList ≠ ".json".toList then .error (.notJsonFile path)
  else match fs.readJson path with
    | .ok (.obj members) => .ok members
    | .ok _ => .error (.notAnObject path)
    | .error (.json message) => .error (.invalidJson path message)
    | .error (.file .nullCharacter) =>
      .error (.mismatch (.badValue FileError.nullCharacter.message))
    | .error (.file cause) => .error (.unreadable path cause)
    | .error (.encoding cause) => .error (.encoding cause)
    | .error (.refused cause) => .error (.mismatch cause)

/-- The settings in a file. -/
def readFile (fs : FileSystem) (path : Path) : Except Error Json.Members :=
  match fs.contains path with
  | .error cause => .error (.inaccessible cause)
  | .ok false => .error (.notFound path)
  | .ok true => readExisting fs path

/-- The entries of an optional file, which is named by a text. -/
def fileEntries (fs : FileSystem) (file : Json) : Except Error Table :=
  if !file.truthy then .ok []
  else match file with
    | .str path => do
      let members ← readFile fs (Path.ofString path)
      .ok (Table.ofMembers members)
    | v => .error (.mismatch v.notAPath)

/-- The entries of optional settings that are given directly. -/
def directEntries (settings : Json) : Except Error Table :=
  if settings.truthy then ofValue (Table.entriesOf settings) else .ok []

/-- Loads a configuration. -/
def load (fs : FileSystem) (language : Json) (settings file : Json := .null) :
    Except Error Config := do
  let defaults ← languageDefaults language
  let fromFile ← fileEntries fs file
  let direct ← directEntries settings
  ofValue (Config.ofTable ((defaults.update fromFile).update direct))

/-- Saves a configuration.  Where it cannot be written, only the failure is given, and not what is
left in a file that has been written in part. -/
def save (fs : FileSystem) (config : Config) (path : Path) : Except Error FileSystem := do
  ofValue config.checkCopied
  let table ← ofValue config.toTable
  let content := Json.obj (Table.toMembers table)
  match fs.write path content.toIndented with
  | .ok fs => do
    ofValue content.checkDigits
    .ok fs
  | .error .nullCharacter => .error (.mismatch (.badValue FileError.nullCharacter.message))
  | .error cause => .error (.unwritable path cause)

end DartRecords.Config
