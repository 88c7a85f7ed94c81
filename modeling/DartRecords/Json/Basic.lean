import DartRecords.Number.Binary64

/-!
# JSON values

A value keeps the order of its object members and tells whole numbers from doubles.  The
operations here are those that a reader of loosely typed documents needs: looking up a member,
enumerating the items of a value, and deciding whether a value counts as present.  Each says with
a `Mismatch` why a value of another shape does not support it.
-/

namespace DartRecords

/-- A JSON value. -/
inductive Json where
  | null
  | bool (value : Bool)
  | int (value : Int)
  | real (value : Binary64)
  | str (value : String)
  | arr (items : List Json)
  | obj (members : List (String × Json))
  deriving Repr, Inhabited

/-- Why a value does not support an operation. -/
inductive Mismatch where
  /-- The operation is not defined on values of this type. -/
  | wrongType (detail : String)
  /-- The value is of a type without such a member. -/
  | noMembers (detail : String)
  /-- The value has members, but not this one. -/
  | missing (member : String)
  /-- The value is of the right type but not acceptable. -/
  | badValue (detail : String)
  /-- The number is not finite, or too large to count with. -/
  | outOfRange (detail : String)
  /-- The value is nested too deeply. -/
  | tooDeep (detail : String)
  /-- The result would not fit into any memory. -/
  | tooLarge
  deriving DecidableEq, Repr

/-- The text that explains a mismatch inside a longer message. -/
def Mismatch.detail : Mismatch → String
  | .wrongType detail => detail
  | .noMembers detail => detail
  | .missing member => member
  | .badValue detail => detail
  | .outOfRange detail => detail
  | .tooDeep detail => detail
  | .tooLarge => ""

namespace Json

/-- The members of an object as an association list, one entry per name. -/
abbrev Members := List (String × Json)

/-- Sets a member: an existing one keeps its place, a new one goes last. -/
def insert (key : String) (value : Json) : Members → Members
  | [] => [(key, value)]
  | (k, v) :: rest => if k = key then (key, value) :: rest else (k, v) :: insert key value rest

/-- Whether a value counts as present: not null, false, zero or empty. -/
def truthy : Json → Bool
  | .null => false
  | .bool b => b
  | .int n => n != 0
  | .real x => !x.isZero
  | .str s => !s.isEmpty
  | .arr items => !items.isEmpty
  | .obj members => !members.isEmpty

/-- Whether a value may serve as a key of a table: lists and objects may not. -/
def hashable : Json → Bool
  | .arr _ => false
  | .obj _ => false
  | _ => true

/-- The name of a value's type, as messages show it. -/
def typeName : Json → String
  | .null => "NoneType"
  | .bool _ => "bool"
  | .int _ => "int"
  | .real _ => "float"
  | .str _ => "str"
  | .arr _ => "list"
  | .obj _ => "dict"

/-- The number that a boolean or a numeric value is, whole numbers and doubles alike. -/
def sameNumber : Json → Json → Bool
  | .bool a, .bool b => a == b
  | .bool a, .int n => (if a then 1 else 0) == n
  | .int n, .bool a => (if a then 1 else 0) == n
  | .int m, .int n => m == n
  | .real x, .real y => x.same y
  | .real x, .int n => x.toInt? == some n
  | .int n, .real x => x.toInt? == some n
  | .real x, .bool a => x.toInt? == some (if a then 1 else 0)
  | .bool a, .real x => x.toInt? == some (if a then 1 else 0)
  | _, _ => false

/-- Equality of the values that hold no others. -/
def sameScalar : Json → Json → Bool
  | .null, .null => true
  | .str s, .str t => s == t
  | a, b => sameNumber a b

/-- Equality of values that may serve as keys of a table.  What is not a number differs from every
number, itself included, but it is still one key. -/
def sameKey : Json → Json → Bool
  | .real .nan, .real .nan => true
  | a, b => sameScalar a b

/-- The member of an object, if the value is an object that has it. -/
def member? (key : String) : Json → Option Json
  | .obj members => members.lookup key
  | _ => none

/-- The mismatch of a value of a type without some member. -/
def lacking (value : Json) (member : String) : Mismatch :=
  .noMembers ("'" ++ value.typeName ++ "' object has no attribute '" ++ member ++ "'")

/-- The mismatch of a value that cannot be the key of a table. -/
def unhashable (value : Json) : Mismatch :=
  .wrongType ("unhashable type: '" ++ value.typeName ++ "'")

/-- The mismatch of a value that cannot be a path. -/
def notAPath (value : Json) : Mismatch :=
  .wrongType ("expected a path, not " ++ value.typeName)

/-- The optional member of an object. -/
def lookup (value : Json) (key : String) : Except Mismatch (Option Json) :=
  match value with
  | .obj members => .ok (members.lookup key)
  | _ => .error (value.lacking "get")

/-- The required member of an object. -/
def require (value : Json) (key : String) : Except Mismatch Json :=
  match value with
  | .obj members =>
    match members.lookup key with
    | some v => .ok v
    | none => .error (.missing key)
  | _ => .error (.wrongType ("'" ++ value.typeName ++ "' object has no members"))

/-- The items of a value: the elements of a list, the characters of a text, the names of an
object's members. -/
def items : Json → Except Mismatch (List Json)
  | .arr items => .ok items
  | .str s => .ok (s.toList.map fun c => .str c.toString)
  | .obj members => .ok (members.map fun m => .str m.1)
  | v => .error (.wrongType ("'" ++ v.typeName ++ "' object is not iterable"))

/-- The members of an optional object, none if the value does not count as present. -/
def membersOrNone : Option Json → Except Mismatch Members
  | none => .ok []
  | some v =>
    if v.truthy then
      match v with
      | .obj members => .ok members
      | _ => .error (v.lacking "items")
    else .ok []

/-- The text that a value is. -/
def text : Json → Except Mismatch String
  | .str s => .ok s
  | v => .error (.wrongType ("expected string or bytes-like object, got '" ++ v.typeName ++ "'"))

end Json

end DartRecords
