import DartRecords.Json.Equality

/-!
# Schema types

The types of fields, methods and constants of a schema: primitive types, references to records,
arrays, arrays whose items are found by a key, and optional types.
-/

namespace DartRecords.Schema

/-- The primitive types. -/
inductive Primitive where
  | bool
  | int32
  | int64
  | uint64
  | float32
  | float64
  | timestamp
  | string
  | bytes
  deriving DecidableEq, Repr

namespace Primitive

/-- All primitive types. -/
def all : List Primitive :=
  [.bool, .int32, .int64, .uint64, .float32, .float64, .timestamp, .string, .bytes]

/-- The name of a primitive type in a schema. -/
def name : Primitive → String
  | .bool => "bool"
  | .int32 => "int32"
  | .int64 => "int64"
  | .uint64 => "uint64"
  | .float32 => "float32"
  | .float64 => "float64"
  | .timestamp => "timestamp"
  | .string => "string"
  | .bytes => "bytes"

/-- The primitive type of a name. -/
def ofName? (s : String) : Option Primitive := all.find? (·.name = s)

end Primitive

/-- A schema type.  The path of a keyed array leads from an item to its key; a document may put
any values into it. -/
inductive Ty where
  | primitive (p : Primitive)
  | record (key : String)
  | array (item : Ty)
  | keyedArray (item : Ty) (path : List Json) (keyType : Ty)
  | optional (other : Ty)
  deriving DecidableEq, Repr

namespace Ty

/-- The keys of all records that a type refers to, from left to right. -/
def recordKeys : Ty → List String
  | .primitive _ => []
  | .record key => [key]
  | .array item => item.recordKeys
  | .keyedArray item _ keyType => item.recordKeys ++ keyType.recordKeys
  | .optional other => other.recordKeys

/-- Whether every element of a key path in the type may serve as a key of a table. -/
def hashable : Ty → Bool
  | .primitive _ => true
  | .record _ => true
  | .array item => item.hashable
  | .keyedArray item path keyType => item.hashable && path.all Json.hashable && keyType.hashable
  | .optional other => other.hashable

/-- The parts of all key paths in a type. -/
def keyParts : Ty → List Json
  | .primitive _ => []
  | .record _ => []
  | .array item => item.keyParts
  | .keyedArray item path keyType => item.keyParts ++ path ++ keyType.keyParts
  | .optional other => other.keyParts

/-- The mismatch of a type with a part of a key path that cannot be the key of a table. -/
def unhashable (type : Ty) : Mismatch :=
  ((type.keyParts.find? fun part => !part.hashable).getD .null).unhashable

end Ty

end DartRecords.Schema
