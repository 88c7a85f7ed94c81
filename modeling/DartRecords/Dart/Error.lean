import DartRecords.Dart.Flavor
import DartRecords.Layout.Basic
import DartRecords.Schema.Error

/-!
# Faults of generation

Why no Dart code can be written for a schema that has been read.
-/

namespace DartRecords.Dart

/-- Why generation stops. -/
inductive Error where
  | schema (cause : Schema.Error)
  | mismatch (cause : Mismatch)
  /-- A field without a type stands where a type is needed. -/
  | unresolvedType
  | structWithoutFlavor (className : String) (flavor : Flavor)
  | arrayWithoutFlavor (flavor : Flavor)
  | unbalanced (cause : Layout.Unbalanced)
  deriving DecidableEq, Repr

/-- The message of a fault. -/
def Error.message : Error → String
  | .schema cause => cause.message
  | .mismatch cause => cause.detail
  | .unresolvedType => "Not a resolved type: None"
  | .structWithoutFlavor className flavor =>
    "Struct " ++ className ++ " has no " ++ flavor.name ++ " type"
  | .arrayWithoutFlavor flavor => "Arrays have no " ++ flavor.name ++ " type"
  | .unbalanced cause => cause.message

/-- The mismatch behind a fault, if it is one. -/
def Error.mismatch? : Error → Option Mismatch
  | .mismatch cause => some cause
  | .schema (.mismatch cause) => some cause
  | _ => none

/-- Lifts an operation on a loose value. -/
def ofValue {α : Type} (result : Except Mismatch α) : Except Error α := result.mapError .mismatch

/-- Lifts an operation on a schema. -/
def ofSchema {α : Type} (result : Except Schema.Error α) : Except Error α := result.mapError .schema

/-- Goes on with a result that needs no memory. -/
def lift {m : Type → Type} [Monad m] [MonadExceptOf Error m] {α : Type} (result : Except Error α) :
    m α :=
  MonadExcept.ofExcept result

end DartRecords.Dart
