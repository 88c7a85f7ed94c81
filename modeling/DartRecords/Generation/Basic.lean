import DartRecords.Generation.Backend

/-!
# Generating code

Code is generated for all modules of a schema or for none: the first fault discards every file.
-/

namespace DartRecords

open Dart (Gen Session SourceFile)
open Schema (Document)

/-- What is known about generated code beside the files. -/
structure Metadata where
  language : String
  extension : String
  moduleCount : Nat
  recordCount : Nat
  methodCount : Nat
  constantCount : Nat
  fileCount : Nat
  deriving DecidableEq, Repr

/-- The metadata of files that a backend has generated for a schema. -/
def Metadata.of {m : Type → Type} (backend : Backend m) (document : Document)
    (files : List SourceFile) : Metadata where
  language := backend.language
  extension := backend.extension
  moduleCount := document.modules.length
  recordCount := (document.modules.flatMap (·.records)).length
  methodCount := (document.modules.flatMap (·.methods)).length
  constantCount := (document.modules.flatMap (·.constants)).length
  fileCount := files.length

/-- The entries of metadata by name. -/
def Metadata.entries (d : Metadata) : Json.Members :=
  [("language", .str d.language), ("file_extension", .str d.extension),
   ("module_count", .int d.moduleCount), ("record_count", .int d.recordCount),
   ("method_count", .int d.methodCount), ("constant_count", .int d.constantCount),
   ("file_count", .int d.fileCount)]

/-- Generated code. -/
structure Generated where
  files : List SourceFile
  warnings : List String
  metadata : Metadata
  deriving DecidableEq, Repr

namespace Generation

/-- Generates code; warnings and the number of files are logged. -/
def attempt (backend : Backend Gen) (config : Config) (document : Document) : Gen Generated := do
  let warnings ← backend.warnings config document
  warnings.forM (Session.log .warning .generation)
  let files ← backend.files config document
  Session.log .info .generation
    ("Generated " ++ toString files.length ++ " " ++ backend.language ++ " file(s)")
  pure ⟨files, warnings, .of backend document files⟩

/-- The message about code that could not be generated. -/
def failureMessage (e : Dart.Error) : String := "Code generation failed: " ++ e.message

/-- Generates code; a fault is logged. -/
def run (backend : Backend Gen) (config : Config) (document : Document) (session : Session) :
    Except Dart.Error Generated × Session :=
  match (attempt backend config document).run.run session with
  | (.ok generated, session) => (.ok generated, session)
  | (.error e, session) =>
    (.error e, session.add
      { level := .error, origin := .generation, message := failureMessage e,
        cause := e.mismatch? })

end Generation

end DartRecords
