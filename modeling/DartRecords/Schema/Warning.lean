import DartRecords.Schema.Record

/-!
# Warnings about schemas

What is worth reporting about a schema whatever language code is generated for.  None of it keeps
code from being generated.
-/

namespace DartRecords.Schema

/-- Whether a module declares nothing. -/
def Module.isEmpty (m : Module) : Bool :=
  m.records.isEmpty && m.methods.isEmpty && m.constants.isEmpty

/-- The warning about a record: an enum should have a variant. -/
def Record.warnings (r : Record) : Except Mismatch (List String) :=
  if !r.isStruct && r.fields.isEmpty then do
    let name ← joinTexts "." r.ancestors
    .ok ["Enum " ++ name ++ " only has the unknown variant"]
  else .ok []

/-- The warnings about a module. -/
def Module.warnings (m : Module) : Except Mismatch (List String) := do
  let own := if m.isEmpty then ["Module '" ++ m.path.display ++ "' declares nothing"] else []
  let others ← m.records.mapM Record.warnings
  .ok (own ++ others.flatten)

/-- The warnings about a schema. -/
def Document.warnings (d : Document) : Except Mismatch (List String) := do
  let own := if d.modules.isEmpty then ["No modules to generate"] else []
  let others ← d.modules.mapM Module.warnings
  .ok (own ++ others.flatten)

end DartRecords.Schema
