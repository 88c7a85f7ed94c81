import DartRecords.Dart.Error
import DartRecords.Dart.Name
import DartRecords.Schema.Reader

/-!
# Spelling types

The Dart type of a schema type in a flavour, as it is written in the file of one module: classes
of other modules are qualified by the alias under which that file imports them.
-/

namespace DartRecords.Dart

open Schema (Record RecordMap Ty)

/-- The alias by which the class of a record is qualified in the module of a path; in the module of
the record itself there is none. -/
def qualifier (origin : Json) (record : Record) : Except Error (Option String) :=
  if record.modulePath.same origin then .ok none
  else do
    let path ← ofValue record.modulePath.text
    .ok (some (moduleAlias path))

/-- The records of a schema, seen from one module. -/
structure Scope where
  records : RecordMap
  /-- The path of the module. -/
  origin : Json
  deriving DecidableEq, Repr

namespace Scope

/-- The record of a key. -/
def record (scope : Scope) (key : String) : Except Error Record :=
  ofSchema (scope.records.find (.str key))

/-- The frozen Dart class of a record.  The names of nested records are joined, and a record of
another module is qualified. -/
def className (scope : Scope) (record : Record) : Except Error String := do
  let name ← ofValue (Schema.joinTexts "_" record.ancestors)
  match ← qualifier scope.origin record with
  | none => .ok name
  | some other => .ok (other ++ "." ++ name)

end Scope

/-- The Dart type of a record, by its class. -/
def recordType (record : Record) (name : String) (flavor : Flavor) (allFrozen : Option Bool) :
    Except Error String :=
  if record.isStruct then
    if flavor = .frozen || allFrozen = some true then .ok name
    else match flavor with
      | .maybeMutable => .ok (name ++ "_orMutable")
      | .initializer => .ok (name ++ "_orMutable")
      | .mutable => .ok (name ++ "_mutable")
      | _ => .error (.structWithoutFlavor name flavor)
  else if flavor = .kind then .ok (name ++ "_kind")
  else .ok name

/-- The flavour of the items of an array of a flavour, with the Dart class of the array; there is
no array of discriminants. -/
def arrayShape : Flavor → Except Error (Flavor × String)
  | .frozen => .ok (.frozen, "_core.Iterable")
  | .initializer => .ok (.maybeMutable, "_core.Iterable")
  | .maybeMutable => .ok (.maybeMutable, "_core.Iterable")
  | .mutable => .ok (.maybeMutable, "_core.List")
  | .kind => .error (.arrayWithoutFlavor .kind)

/-- The type argument for the keys of an array: an enum is found by its discriminant. -/
def keyArgument (keyType : Ty) (spelt : String) : String :=
  match keyType with
  | .record _ => spelt ++ "_kind"
  | _ => spelt

/-- What a spelling is remembered by. -/
structure SpellingKey where
  type : Ty
  flavor : Flavor
  allFrozen : Option Bool
  deriving DecidableEq, Repr

section Spell

variable {m : Type → Type} [Monad m] [MonadExceptOf Error m]

/-- The Dart type of a type whose key paths may serve as keys of a table.  Class names come from one
source; a memory may know the spelling of any part already. -/
def spellWith (scope : Scope) (className : Record → m String)
    (memory : SpellingKey → m String → m String) (flavor : Flavor) (allFrozen : Option Bool)
    (type : Ty) : m String :=
  memory ⟨type, flavor, allFrozen⟩ <|
    match type with
    | .primitive p => pure (primitiveType p)
    | .record key => do
      let record ← lift (scope.record key)
      let name ← className record
      lift (recordType record name flavor allFrozen)
    | .optional other => do
      let spelt ← spellWith scope className memory flavor allFrozen other
      pure (spelt ++ "?")
    | .array item => do
      let (itemFlavor, shape) ← lift (arrayShape flavor)
      let spelt ← spellWith scope className memory itemFlavor allFrozen item
      pure (shape ++ "<" ++ spelt ++ ">")
    | .keyedArray item _ keyType => do
      let (itemFlavor, shape) ← lift (arrayShape flavor)
      let spelt ← spellWith scope className memory itemFlavor allFrozen item
      if flavor = .frozen then
        let key ← spellWith scope className memory .frozen none keyType
        pure ("_soia.KeyedIterable<" ++ spelt ++ ", " ++ keyArgument keyType key ++ ">")
      else pure (shape ++ "<" ++ spelt ++ ">")

end Spell

/-- The Dart type of a type whose key paths may serve as keys of a table, computed afresh. -/
def spell (scope : Scope) : Flavor → Option Bool → Ty → Except Error String :=
  spellWith scope scope.className fun _ compute => compute

/-- The Dart type of a type.  A key path with a list or an object in it has none. -/
def dartType (scope : Scope) (type : Ty) (flavor : Flavor) (allFrozen : Option Bool := none) :
    Except Error String :=
  if type.hashable then spell scope flavor allFrozen type
  else .error (.mismatch type.unhashable)

end DartRecords.Dart
