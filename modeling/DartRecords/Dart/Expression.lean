import DartRecords.Dart.Session

/-!
# Expressions of types

The Dart expressions that generated code needs for a type: its serializer, the default value of
its fields, and the conversion of a value into a frozen one.
-/

namespace DartRecords.Dart

open Schema (Ty Record)

variable {m : Type → Type} [Monad m] [MonadExceptOf Error m]

/-- The type of a field that has to have one. -/
def resolved : Option Ty → m Ty
  | some t => pure t
  | none => throw .unresolvedType

namespace Speller

/-- The record of a key. -/
def record (sp : Speller m) (key : String) : m Record := lift (sp.scope.record key)

/-- The access of a key, as a chain of Dart properties. -/
def keyAccess (sp : Speller m) (path : List Json) : m String := do
  let names ← path.mapM sp.fieldName
  pure (".".intercalate names)

/-- The expression of a type's serializer. -/
def serializer (sp : Speller m) : Ty → m String
  | .primitive p => pure ("_soia.Serializers." ++ p.name)
  | .array item => do
    let inner ← serializer sp item
    pure ("_soia.Serializers.iterable(\n" ++ inner ++ ",\n)")
  | .keyedArray item path _ => do
    let inner ← serializer sp item
    let chain ← lift (ofValue (Schema.joinTexts "." path))
    let access ← sp.keyAccess path
    let itemType ← sp.dartType item .frozen none
    pure ("_soia.Serializers.keyedIterable(\n" ++ inner ++ ",\n(" ++ itemType ++ " it) => it."
      ++ access ++ ",\ninternal__getKeySpec: \"" ++ chain ++ "\",\n)")
  | .optional other => do
    let inner ← serializer sp other
    pure ("_soia.Serializers.optional(\n" ++ inner ++ ",\n)")
  | .record key => do
    let name ← sp.className (← sp.record key)
    pure (name ++ ".serializer")

/-- The default value of a type. -/
def defaultValue (sp : Speller m) : Ty → m DefaultValue
  | .primitive p => pure (primitiveDefault p)
  | .array _ => pure ⟨"_soia.KeyedIterable.empty", true⟩
  | .keyedArray .. => pure ⟨"_soia.KeyedIterable.empty", true⟩
  | .optional _ => pure ⟨"null", true⟩
  | .record key => do
    let record ← sp.record key
    let frozen ← sp.dartType (.record key) .frozen none
    if record.isStruct then pure ⟨frozen ++ ".defaultInstance", false⟩
    else pure ⟨frozen ++ ".unknown", true⟩

/-- The expression that makes the value of an expression frozen.  A conversion that changes
nothing is left out. -/
def toFrozen (sp : Speller m) (input : String) : Ty → m String
  | .primitive p => pure (if p = .timestamp then input ++ ".toUtc()" else input)
  | .array item => do
    let each ← toFrozen sp "it" item
    if each = "it" then pure ("_soia.internal__frozenCopy(" ++ input ++ ")")
    else pure ("_soia.internal__frozenMappedCopy(" ++ input ++ ", (it) => " ++ each ++ ")")
  | .keyedArray item path _ => do
    let each ← toFrozen sp "it" item
    let access ← sp.keyAccess path
    if each = "it" then
      pure ("_soia.internal__keyedCopy(" ++ input ++ ", \"" ++ access ++ "\", (it) => it."
        ++ access ++ ")")
    else
      pure ("_soia.internal__keyedMappedCopy(" ++ input ++ ", \"" ++ access ++ "\", (it) => it."
        ++ access ++ ", (it) => " ++ each ++ ")")
  | .optional other => do
    let inner ← toFrozen sp input other
    if inner = input then pure inner
    else pure ("(" ++ input ++ " != null) ? " ++ inner ++ " : null")
  | .record key => do
    let record ← sp.record key
    pure (if record.isStruct then input ++ ".toFrozen()" else input)

end Speller

end DartRecords.Dart
