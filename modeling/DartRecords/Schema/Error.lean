import DartRecords.Json.Display
import DartRecords.Json.Equality

/-!
# Faults of schema documents

Why a document is refused, and the message for each cause.  A value of a shape that no rule
provides for gives a `mismatch` instead.
-/

namespace DartRecords.Schema

/-- Why a document is refused. -/
inductive Error where
  | notAnObject
  | notATypeNode (node : Json)
  | invalidPrimitive (node : Json)
  | arrayWithoutItem (node : Json)
  | arrayKeyWithoutPath (node : Json)
  | optionalWithoutOther (node : Json)
  | recordTypeWithoutKey (node : Json)
  | unknownKind (kind : Json)
  | invalidRecursion (field : Json)
  | recordMissing (record entry : String)
  | invalidRecord (record reason : String)
  | unknownRecord (key : Json)
  | moduleWithoutPath
  | methodMissing (entry : String)
  | constantMissing (entry : String)
  | mismatch (cause : Mismatch)
  deriving DecidableEq, Repr

/-- The message of a fault. -/
def Error.message : Error → String
  | .notAnObject => "Generator input must be a JSON object"
  | .notATypeNode node => "Expected a type node, got " ++ node.quote
  | .invalidPrimitive node => "Invalid primitive type: " ++ node.quote
  | .arrayWithoutItem node => "Array type without item: " ++ node.quote
  | .arrayKeyWithoutPath node => "Array key without path: " ++ node.quote
  | .optionalWithoutOther node => "Optional type without wrapped type: " ++ node.quote
  | .recordTypeWithoutKey node => "Record type without key: " ++ node.quote
  | .unknownKind kind => "Unknown type kind: " ++ kind.display
  | .invalidRecursion field => "Invalid recursive flag on field " ++ field.display
  | .recordMissing record entry => "Record " ++ record ++ " is missing entry " ++ Text.quote entry
  | .invalidRecord record reason => "Invalid record " ++ record ++ ": " ++ reason
  | .unknownRecord key => "Unknown record key: " ++ key.display
  | .moduleWithoutPath => "Module without path"
  | .methodMissing entry => "Method is missing entry " ++ Text.quote entry
  | .constantMissing entry => "Constant is missing entry " ++ Text.quote entry
  | .mismatch cause => cause.detail

end DartRecords.Schema
