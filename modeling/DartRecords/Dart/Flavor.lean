import DartRecords.Schema.Type

/-!
# Flavours of Dart types

A schema type has several Dart spellings, depending on where a value of it is used.
-/

namespace DartRecords.Dart

open Schema (Primitive)

/-- Which variant of a type is spelt. -/
inductive Flavor where
  /-- A value that may be passed to the constructor of a frozen class. -/
  | initializer
  /-- A deeply immutable value. -/
  | frozen
  /-- A frozen or a mutable value. -/
  | maybeMutable
  /-- A mutable value. -/
  | mutable
  /-- The discriminant of an enum. -/
  | kind
  deriving DecidableEq, Repr

namespace Flavor

/-- All flavours. -/
def all : List Flavor := [.initializer, .frozen, .maybeMutable, .mutable, .kind]

/-- The name of a flavour. -/
def name : Flavor → String
  | .initializer => "initializer"
  | .frozen => "frozen"
  | .maybeMutable => "maybe-mutable"
  | .mutable => "mutable"
  | .kind => "kind"

/-- The flavour of a name. -/
def ofName? (s : String) : Option Flavor := all.find? (·.name = s)

end Flavor

/-- The Dart type of a primitive type. -/
def primitiveType : Primitive → String
  | .bool => "_core.bool"
  | .int32 => "_core.int"
  | .int64 => "_core.int"
  | .uint64 => "_core.BigInt"
  | .float32 => "_core.double"
  | .float64 => "_core.double"
  | .timestamp => "_core.DateTime"
  | .string => "_core.String"
  | .bytes => "_soia.ByteString"

/-- A Dart expression, and whether it is constant. -/
structure DefaultValue where
  expression : String
  isConst : Bool
  deriving DecidableEq, Repr

/-- The default value of a primitive type. -/
def primitiveDefault : Primitive → DefaultValue
  | .bool => ⟨"false", true⟩
  | .int32 => ⟨"0", true⟩
  | .int64 => ⟨"0", true⟩
  | .uint64 => ⟨"0", true⟩
  | .float32 => ⟨"0.0", true⟩
  | .float64 => ⟨"0.0", true⟩
  | .timestamp => ⟨"_soia.unixEpoch", false⟩
  | .string => ⟨"\"\"", true⟩
  | .bytes => ⟨"_soia.ByteString.empty", false⟩

end DartRecords.Dart
