import DartRecords.Json.Basic

/-!
# Log entries

What the parts of the program report while they work.
-/

namespace DartRecords.Log

/-- How important an entry is. -/
inductive Level where
  | debug
  | info
  | warning
  | error
  deriving DecidableEq, Repr

namespace Level

/-- The number by which levels are compared. -/
def number : Level → Int
  | .debug => 10
  | .info => 20
  | .warning => 30
  | .error => 40

/-- The name of a level. -/
def name : Level → String
  | .debug => "DEBUG"
  | .info => "INFO"
  | .warning => "WARNING"
  | .error => "ERROR"

end Level

/-- The part of the program that makes an entry. -/
inductive Origin where
  | commandLine
  | loading
  | registry
  | generation
  | layout
  | dart
  deriving DecidableEq, Repr

/-- The name of the package logger, above all others. -/
def packageName : String := "soia_dart"

/-- The name of the logger of a part. -/
def Origin.name : Origin → String
  | .commandLine => "soia_dart.cli"
  | .loading => "soia_dart.utils"
  | .registry => "soia_dart.codegen.registry"
  | .generation => "soia_dart.codegen.core.generator"
  | .layout => "soia_dart.codegen.core.layout"
  | .dart => "soia_dart.codegen.languages.dart.generator"

/-- An entry of the log. -/
structure Entry where
  level : Level
  origin : Origin
  message : String
  /-- What was wrong with a loose value, where the entry reports that. -/
  cause : Option Mismatch := none
  deriving DecidableEq, Repr

end DartRecords.Log
