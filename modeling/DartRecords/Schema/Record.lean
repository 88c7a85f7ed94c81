import DartRecords.Json.Display
import DartRecords.Schema.Type

/-!
# Records, modules and documents

What a schema declares.  A document does not fix the types of names, paths and similar members,
so they are kept as the values that the document gives.
-/

namespace DartRecords.Schema

/-- How a field contains its own record. -/
inductive Recursion where
  | soft
  | hard
  deriving DecidableEq, Repr

/-- The name of a kind of recursion. -/
def Recursion.name : Recursion → String
  | .soft => "soft"
  | .hard => "hard"

/-- A struct field or an enum variant.  A variant without a type is a constant. -/
structure Field where
  name : Json
  number : Int
  type : Option Ty := none
  recursion : Option Recursion := none
  deriving DecidableEq, Repr

/-- Whether a field contains its own record without any indirection. -/
def Field.isHardRecursive (f : Field) : Bool := f.recursion == some .hard

/-- The kinds of records. -/
inductive RecordKind where
  | struct
  | enum
  deriving DecidableEq, Repr

/-- The name of a kind of records. -/
def RecordKind.name : RecordKind → String
  | .struct => "struct"
  | .enum => "enum"

/-- A struct or an enum, together with where it is declared. -/
structure Record where
  key : String
  name : Json
  kind : RecordKind
  fields : List Field := []
  removedNumbers : List Json := []
  /-- The names of the enclosing records, outermost first, and of the record itself. -/
  ancestors : List Json
  modulePath : Json
  deriving DecidableEq, Repr

/-- Whether a record is a struct. -/
def Record.isStruct (r : Record) : Bool := r.kind == .struct

/-- A remote procedure. -/
structure Method where
  name : Json
  number : Int
  requestType : Ty
  responseType : Ty
  deriving DecidableEq, Repr

/-- A named value. -/
structure Constant where
  name : Json
  type : Ty
  value : Json := .null
  deriving DecidableEq, Repr

/-- One schema file, for which one source file is generated. -/
structure Module where
  path : Json
  records : List Record := []
  methods : List Method := []
  constants : List Constant := []
  /-- The imported module paths with the names imported from each. -/
  imports : List (String × List Json) := []
  deriving DecidableEq, Repr

/-- The types of the fields, methods and constants of a module, in that order. -/
def Module.types (m : Module) : List Ty :=
  m.records.flatMap (fun r => r.fields.filterMap (·.type))
    ++ m.methods.flatMap (fun method => [method.requestType, method.responseType])
    ++ m.constants.map (·.type)

/-- All records by key, in the order of the document. -/
abbrev RecordMap := List (String × Record)

/-- A whole schema. -/
structure Document where
  modules : List Module := []
  records : RecordMap := []
  deriving DecidableEq, Repr

/-- The texts that values are, counted from an index. -/
def textsFrom (index : Nat) : List Json → Except Mismatch (List String)
  | [] => .ok []
  | .str s :: rest =>
    match textsFrom (index + 1) rest with
    | .ok texts => .ok (s :: texts)
    | .error e => .error e
  | v :: _ => .error (.wrongType ("sequence item " ++ toString index
      ++ ": expected str instance, " ++ v.typeName ++ " found"))

/-- Joins texts with a separator; each value has to be a text. -/
def joinTexts (separator : String) (values : List Json) : Except Mismatch String :=
  match textsFrom 0 values with
  | .ok texts => .ok (separator.intercalate texts)
  | .error e => .error e

/-- The record's name among all modules. -/
def Record.id (r : Record) : Except Mismatch String :=
  match joinTexts "." r.ancestors with
  | .ok names => .ok (r.modulePath.display ++ ":" ++ names)
  | .error e => .error e

end DartRecords.Schema
