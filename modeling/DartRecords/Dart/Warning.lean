import DartRecords.Dart.Expression
import DartRecords.Schema.Warning

/-!
# Warnings about generated Dart code

In addition to the warnings about a schema itself: a module whose path does not have the schema
extension, and a field whose Dart name had to be changed.
-/

namespace DartRecords.Dart

open Schema (Document Field Module Record)

variable {m : Type → Type} [Monad m] [MonadExceptOf Error m]

/-- The warning about the path of a module. -/
def pathWarnings (path : Json) : Except Mismatch (List String) :=
  match path with
  | .str s =>
    if schemaExtension.isSuffixOf s.toList then .ok []
    else .ok ["Module path " ++ s ++ " does not end with .soia"]
  | v => .error (v.lacking "endswith")

/-- The warning about a field: a name that ends with an underscore has been changed. -/
def fieldWarnings (names : Namer m) (record : Record) (f : Field) : m (List String) := do
  let name ← if record.isStruct then names.fieldName f.name else names.variantName f.name
  if name.endsWith "_" then
    let owner ← lift (ofValue (Schema.joinTexts "." record.ancestors))
    pure ["Field " ++ owner ++ "." ++ f.name.display ++ " renamed to " ++ name
      ++ " to avoid Dart naming conflicts"]
  else pure []

/-- The warnings about the fields of a record. -/
def recordWarnings (names : Namer m) (record : Record) : m (List String) := do
  let warnings ← record.fields.mapM (fieldWarnings names record)
  pure warnings.flatten

/-- The warnings about a module. -/
def moduleWarnings (names : Namer m) (module : Module) : m (List String) := do
  let own ← lift (ofValue (pathWarnings module.path))
  let others ← module.records.mapM (recordWarnings names)
  pure (own ++ others.flatten)

/-- All warnings about a schema for which Dart code is generated. -/
def warnings (names : Namer m) (document : Document) : m (List String) := do
  let general ← lift (ofValue document.warnings)
  let others ← document.modules.mapM (moduleWarnings names)
  pure (general ++ others.flatten)

end DartRecords.Dart
