import DartRecords.Dart.Expression
import DartRecords.Dart.Struct

/-!
# Classes of enums

An enum becomes a sealed Dart class with a constant or a factory for each variant, a class for
each variant and for the unknown one, and a Dart enum of the discriminants.
-/

namespace DartRecords.Dart

open Schema (Field Record)

variable {m : Type → Type} [Monad m] [MonadExceptOf Error m]

namespace Enum

/-- Whether a variant is a constant; otherwise it wraps a value. -/
def isConstant (f : Field) : Bool := f.type.isNone

/-- What the names of a variant's class and discriminant end with. -/
def kindSuffix (f : Field) : String := if isConstant f then "Const" else "Wrapper"

/-- The name of a variant in upper camel case. -/
def variantBase (f : Field) : m String := lift (ofValue (upperCamel f.name))

/-- The class of a variant. -/
def optionClass (name : String) (f : Field) : m String := do
  let base ← variantBase f
  pure (name ++ "_" ++ base ++ kindSuffix f)

/-- Makes the first letter of a name small. -/
def lowerFirst (s : String) : String :=
  String.ofList (Text.lower (s.toList.take 1) ++ s.toList.drop 1)

/-- The discriminant of a variant. -/
def kindName (f : Field) : m String := do
  let base ← variantBase f
  pure (lowerFirst base ++ kindSuffix f)

/-! ## The sealed class -/

/-- The member for a constant variant. -/
def constantMember (sp : Speller m) (name : String) (f : Field) : m String := do
  let variant ← sp.variantName f.name
  let option ← optionClass name f
  pure ("static const " ++ name ++ " " ++ variant ++ " = " ++ option ++ "._();\n")

/-- The argument that passes a parameter on. -/
def passedArgument (sp : Speller m) (f : Field) : m String := do
  let name ← sp.fieldName f.name
  pure (name ++ ": " ++ name ++ ",\n")

/-- The factory that takes the fields of the struct that a variant wraps. -/
def createFactory (sp : Speller m) (name option base : String) (struct : Record) :
    m (List String) := do
  let structName ← sp.className struct
  let parameters ← struct.fields.mapM (Struct.parameter sp)
  let arguments ← struct.fields.mapM (passedArgument sp)
  pure (["static " ++ name ++ " create" ++ base ++ "("] ++ Struct.inBraces parameters
    ++ [") => " ++ option ++ "._(" ++ structName ++ "(\n"] ++ arguments ++ ["));\n\n"])

/-- The factories for a variant with a value. -/
def factories (sp : Speller m) (name : String) (f : Field) : m (List String) := do
  let option ← optionClass name f
  let base ← variantBase f
  let type ← resolved f.type
  let initializer ← sp.dartType type .initializer none
  let frozen ← sp.toFrozen "value" type
  let wrap := "static " ++ name ++ " wrap" ++ base ++ "(" ++ initializer ++ " value) => "
    ++ option ++ "._(" ++ frozen ++ ");\n\n"
  match type with
  | .record key =>
    let record ← sp.record key
    if record.isStruct then
      let create ← createFactory sp name option base record
      pure (wrap :: create)
    else pure [wrap]
  | _ => pure [wrap]

/-- The sealed class of an enum. -/
def sealedClass (sp : Speller m) (name : String) (fields : List Field) : m (List String) := do
  let constants := fields.filter isConstant
  let constantMembers ← constants.mapM (constantMember sp name)
  let valueMembers ← (fields.filter (!isConstant ·)).mapM (factories sp name)
  pure (["sealed class " ++ name ++ " \x7b\n",
      "static const " ++ name ++ " unknown = " ++ name ++ "_unknown._();\n"]
    ++ constantMembers
    ++ (if constants.isEmpty then [] else ["\n"])
    ++ valueMembers.flatten
    ++ [name ++ "_kind get kind;\n", "\x7d\n\n"])

/-! ## The classes of the variants -/

/-- The getter of a discriminant. -/
def kindGetter (name kind : String) : List String :=
  ["@_core.override\n", name ++ "_kind get kind => " ++ name ++ "_kind." ++ kind ++ ";\n"]

/-- The class of the unknown variant. -/
def unknownClass (name : String) : List String :=
  ["final class " ++ name ++ "_unknown implements " ++ name ++ " \x7b\n",
   "const " ++ name ++ "_unknown._();\n\n"]
  ++ kindGetter name "constUnknown" ++ ["\x7d\n\n"]

/-- The class of a constant variant. -/
def constantClass (name : String) (f : Field) : m (List String) := do
  let option ← optionClass name f
  let kind ← kindName f
  pure (["final class " ++ option ++ " implements " ++ name ++ " \x7b\n",
      "const " ++ option ++ "._();\n\n"]
    ++ kindGetter name kind ++ ["\x7d\n\n"])

/-- The class of a variant with a value. -/
def wrapperClass (sp : Speller m) (name : String) (f : Field) : m (List String) := do
  let option ← optionClass name f
  let value ← sp.dartType (← resolved f.type) .frozen none
  let kind ← kindName f
  pure (["final class " ++ option ++ " implements " ++ name ++ " \x7b\n",
      "final " ++ value ++ " value;\n\n", option ++ "._(this.value);\n\n"]
    ++ kindGetter name kind ++ ["\x7d\n\n"])

/-- The Dart enum of the discriminants. -/
def kindEnum (name : String) (fields : List Field) : m (List String) := do
  let kinds ← fields.mapM kindName
  pure (["enum " ++ name ++ "_kind \x7b\n", "constUnknown,\n"] ++ kinds.map Struct.asLine
    ++ ["\x7d\n\n"])

/-- The classes of an enum. -/
def classes (sp : Speller m) (enum : Record) : m (List String) := do
  let name ← sp.className enum
  let sealedOne ← sealedClass sp name enum.fields
  let constantOnes ← (enum.fields.filter isConstant).mapM (constantClass name)
  let wrapperOnes ← (enum.fields.filter (!isConstant ·)).mapM (wrapperClass sp name)
  let kinds ← kindEnum name enum.fields
  pure (sealedOne ++ unknownClass name ++ constantOnes.flatten ++ wrapperOnes.flatten ++ kinds)

end Enum

end DartRecords.Dart
