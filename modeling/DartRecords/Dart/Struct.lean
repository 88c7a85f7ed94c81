import DartRecords.Dart.Expression

/-!
# Classes of structs

A struct becomes three Dart classes: a frozen class, a mutable one, and a sealed class above both
that has the getters they share.  The code is written as fragments without indentation.
-/

namespace DartRecords.Dart

open Schema (Field Record)

variable {m : Type → Type} [Monad m] [MonadExceptOf Error m]

namespace Struct

/-! ## The parts of one field -/

/-- The getter in the class above both. -/
def getter (sp : Speller m) (f : Field) : m String := do
  let type ← sp.dartType (← resolved f.type) .maybeMutable (some f.isHardRecursive)
  let name ← sp.fieldName f.name
  pure (type ++ " get " ++ name ++ ";\n")

/-- The property in the frozen class.  A field that contains its own record is kept as an optional
value behind a getter, since its default value cannot be built. -/
def frozenProperty (sp : Speller m) (f : Field) : m String := do
  let name ← sp.fieldName f.name
  let t ← resolved f.type
  let type ← sp.dartType t .frozen none
  if f.isHardRecursive then
    let default ← sp.defaultValue t
    pure ("final " ++ type ++ "? _rec_" ++ name ++ ";\n" ++ "@_core.override\n" ++ type ++ " get "
      ++ name ++ " => _rec_" ++ name ++ " ?? " ++ default.expression ++ ";\n")
  else pure ("final " ++ type ++ " " ++ name ++ ";\n")

/-- The parameter of the public constructor. -/
def parameter (sp : Speller m) (f : Field) : m String := do
  let type ← sp.dartType (← resolved f.type) .initializer none
  let name ← sp.fieldName f.name
  pure ("required " ++ type ++ " " ++ name ++ ",\n")

/-- The argument that the public constructor passes on. -/
def frozenArgument (sp : Speller m) (f : Field) : m String := do
  let name ← sp.fieldName f.name
  let frozen ← sp.toFrozen name (← resolved f.type)
  pure (frozen ++ ",\n")

/-- The parameter of the private constructor of the frozen class. -/
def frozenFormal (sp : Speller m) (f : Field) : m String := do
  let name ← sp.fieldName f.name
  pure ((if f.isHardRecursive then "this._rec_" else "this.") ++ name ++ ",\n")

/-- The default value of a field. -/
def defaultArgument (sp : Speller m) (f : Field) : m String := do
  let default ← sp.defaultValue (← resolved f.type)
  pure default.expression

/-- The value of a field in the default instance. -/
def defaultInstanceArgument (sp : Speller m) (f : Field) : m String :=
  if f.isHardRecursive then pure "null" else defaultArgument sp f

/-- The field as a parameter or an argument that is named after it. -/
def ownField (sp : Speller m) (f : Field) : m String := do
  let name ← sp.fieldName f.name
  pure ("this." ++ name ++ ",\n")

/-- The property in the mutable class. -/
def mutableProperty (sp : Speller m) (f : Field) : m String := do
  let type ← sp.dartType (← resolved f.type) .maybeMutable (some f.isHardRecursive)
  let name ← sp.fieldName f.name
  pure ("@_core.override\n" ++ type ++ " " ++ name ++ ";\n")

/-- The argument that a mutable value passes to the public constructor. -/
def namedArgument (sp : Speller m) (f : Field) : m String := do
  let name ← sp.fieldName f.name
  pure (name ++ ": this." ++ name ++ ",\n")

/-- Braces around the parameters of a constructor, which are left out if there are none. -/
def inBraces (parameters : List String) : List String :=
  if parameters.isEmpty then [] else ["\x7b\n"] ++ parameters ++ ["\x7d"]

/-- Ends the line of an argument. -/
def asLine (argument : String) : String := argument ++ ",\n"

/-! ## The classes -/

/-- The sealed class above the other two. -/
def sealedClass (sp : Speller m) (name : String) (fields : List Field) : m (List String) := do
  let getters ← fields.mapM (getter sp)
  pure (["sealed class " ++ name ++ "_orMutable \x7b\n"] ++ getters
    ++ (if fields.isEmpty then [] else ["\n"])
    ++ [name ++ " toFrozen();\n", "\x7d\n\n"])

/-- The frozen class. -/
def frozenClass (sp : Speller m) (name : String) (fields : List Field) : m (List String) := do
  let properties ← fields.mapM (frozenProperty sp)
  let parameters ← fields.mapM (parameter sp)
  let frozenArguments ← fields.mapM (frozenArgument sp)
  let formals ← fields.mapM (frozenFormal sp)
  let instanceArguments ← fields.mapM (defaultInstanceArgument sp)
  let defaultArguments ← fields.mapM (defaultArgument sp)
  let ownFields ← fields.mapM (ownField sp)
  pure (["final class " ++ name ++ " implements " ++ name ++ "_orMutable \x7b\n"]
    ++ properties
    ++ ["_soia.UnrecognizedFields<" ++ name ++ ">? _unrecognizedFields;\n\n",
        "factory " ++ name ++ "("]
    ++ inBraces parameters
    ++ [") => " ++ name ++ "._(\n"]
    ++ frozenArguments
    ++ [");\n\n", name ++ "._(\n"]
    ++ formals
    ++ [");\n\n", "static final defaultInstance = " ++ name ++ "._(\n"]
    ++ instanceArguments.map asLine
    ++ [");\n\n", "static " ++ name ++ "_mutable mutable() => " ++ name ++ "_mutable._(\n"]
    ++ defaultArguments.map asLine
    ++ [");\n\n", "@_core.deprecated\n", "@_core.override\n", name ++ " toFrozen() => this;\n\n",
        name ++ "_mutable toMutable() => " ++ name ++ "_mutable._(\n"]
    ++ ownFields
    ++ [");\n", "\x7d\n\n"])

/-- The mutable class. -/
def mutableClass (sp : Speller m) (name : String) (fields : List Field) : m (List String) := do
  let properties ← fields.mapM (mutableProperty sp)
  let formals ← fields.mapM (ownField sp)
  let arguments ← fields.mapM (namedArgument sp)
  pure (["final class " ++ name ++ "_mutable implements " ++ name ++ "_orMutable \x7b\n\n"]
    ++ properties
    ++ ["_soia.UnrecognizedFields<" ++ name ++ ">? _unrecognizedFields;\n\n",
        name ++ "_mutable._(\n"]
    ++ formals
    ++ [");\n\n", "@_core.override\n", name ++ " toFrozen() => " ++ name ++ "(\n"]
    ++ arguments
    ++ [").._unrecognizedFields = this._unrecognizedFields;\n", "\x7d\n\n"])

/-- The classes of a struct. -/
def classes (sp : Speller m) (struct : Record) : m (List String) := do
  let name ← sp.className struct
  let sealedOne ← sealedClass sp name struct.fields
  let frozenOne ← frozenClass sp name struct.fields
  let mutableOne ← mutableClass sp name struct.fields
  pure (sealedOne ++ frozenOne ++ mutableOne)

end Struct

end DartRecords.Dart
