import DartRecords.Dart.SourceFile
import DartRecords.Dart.Warning

/-!
# Backends

A backend generates code in one language.  The library has one, for Dart; others may be
registered beside it.
-/

namespace DartRecords

open Schema (Document)

/-- A generator of code in one language. -/
structure Backend (m : Type → Type) where
  /-- The name of the class by which users know the generator. -/
  className : String
  /-- The name of the module that the class belongs to. -/
  moduleName : String
  language : String
  extension : String
  /-- The parts that the generator still lacks; it cannot be used unless there are none. -/
  missingParts : List String := []
  warnings : Config → Document → m (List String)
  files : Config → Document → m (List Dart.SourceFile)

namespace Backend

/-- The generator of Dart code.  Import paths are relative to a working directory. -/
def dart [Limits] (workingDirectory : List String) : Backend Dart.Gen where
  className := "DartGenerator"
  moduleName := "soia_dart.codegen.languages.dart.generator"
  language := "dart"
  extension := ".dart"
  warnings _ document := Dart.warnings Dart.Namer.remembering document
  files config document :=
    document.modules.mapM (Dart.SourceFile.generate config workingDirectory document.records)

end Backend

end DartRecords
