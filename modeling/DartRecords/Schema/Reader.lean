import DartRecords.Json.Depth
import DartRecords.Number.Whole
import DartRecords.Schema.Error
import DartRecords.Schema.Record
import DartRecords.Text.Search

/-!
# Reading schema documents

A document is a JSON object with the members `records` and `modules`.  It is accepted when every
node has the required members and every record that a field, a method or a constant refers to is
among the records.
-/

namespace DartRecords.Schema

/-- A result of reading a document. -/
abbrev Read := Except Error

/-- Lifts an operation on a loose value. -/
def Read.ofValue {α : Type} (result : Except Mismatch α) : Read α := result.mapError .mismatch

/-! ## Types -/

/-- Reads a type node, descending at most `fuel` levels. -/
def readTypeWithin : Nat → Json → Read Ty
  | 0, node => .error (.notATypeNode node)
  | fuel + 1, node =>
    match node.member? "kind" with
    | none => .error (.notATypeNode node)
    | some (.str "primitive") =>
      match node.member? "primitive" with
      | some (.str name) =>
        match Primitive.ofName? name with
        | some p => .ok (.primitive p)
        | none => .error (.invalidPrimitive node)
      | _ => .error (.invalidPrimitive node)
    | some (.str "array") =>
      match node.member? "item" with
      | none => .error (.arrayWithoutItem node)
      | some itemNode => do
        let item ← readTypeWithin fuel itemNode
        match node.member? "key" with
        | none => .ok (.array item)
        | some keyNode =>
          if !keyNode.truthy then .ok (.array item)
          else
            match ← Read.ofValue (keyNode.lookup "path") with
            | none => .error (.arrayKeyWithoutPath node)
            | some pathNode =>
              if !pathNode.truthy then .error (.arrayKeyWithoutPath node)
              else
                let path ← Read.ofValue pathNode.items
                let keyTypeNode ← Read.ofValue (keyNode.require "key_type")
                let keyType ← readTypeWithin fuel keyTypeNode
                .ok (.keyedArray item path keyType)
    | some (.str "optional") =>
      match node.member? "other" with
      | none => .error (.optionalWithoutOther node)
      | some otherNode => do
        let other ← readTypeWithin fuel otherNode
        .ok (.optional other)
    | some (.str "record") =>
      match node.member? "key" with
      | none => .error (.recordTypeWithoutKey node)
      | some key => .ok (.record key.display)
    | some kind => .error (.unknownKind kind)

/-- Reads a type node. -/
def readType (node : Json) : Read Ty := readTypeWithin node.depth node

/-! ## Records -/

/-- Reads the recursion flag of a field. -/
def readRecursion (flag : Option Json) (field : Json) : Read (Option Recursion) :=
  match flag with
  | none => .ok none
  | some .null => .ok none
  | some (.str "soft") => .ok (some .soft)
  | some (.str "hard") => .ok (some .hard)
  | some v =>
    if v.sameNumber (.bool false) then .ok none
    else .error (.invalidRecursion ((field.member? "name").getD .null))

/-- Reads a field. -/
def readField (node : Json) : Read Field := do
  let typeNode ← Read.ofValue (node.lookup "type")
  let flag ← Read.ofValue (node.lookup "recursive")
  let recursion ← readRecursion flag node
  let name ← Read.ofValue (node.require "name")
  let number ← Read.ofValue (Whole.ofJson ((node.member? "number").getD (.int 0)))
  let type ← match typeNode with
    | none => pure none
    | some .null => pure none
    | some t => some <$> readType t
  .ok { name, number, type, recursion }

/-- Reads the kind of a record. -/
def readKind : Json → Read RecordKind
  | .str "struct" => .ok .struct
  | .str "enum" => .ok .enum
  | v => .error (.mismatch (.badValue (v.quote ++ " is not a valid RecordKind")))

/-- Reads the names that lead to a record; a record without them has its own name only. -/
def readAncestors (node : Json) : Read (List Json) :=
  match node.member? "ancestors" with
  | some v =>
    if v.truthy then Read.ofValue v.items
    else (fun name => [name]) <$> Read.ofValue (node.require "name")
  | none => (fun name => [name]) <$> Read.ofValue (node.require "name")

/-- Reads the items of an optional member, none if it is absent. -/
def readItems (node : Json) (key : String) : Read (List Json) :=
  match node.member? key with
  | some v => Read.ofValue v.items
  | none => .ok []

/-- Reads a record; its faults do not yet name it. -/
def readRecordBody (key : String) (node : Json) : Read Record := do
  let kindNode ← Read.ofValue (node.require "record_type")
  let kind ← readKind kindNode
  let ancestors ← readAncestors node
  let name := (node.member? "name").getD (ancestors.getLast?.getD .null)
  let fieldNodes ← readItems node "fields"
  let fields ← fieldNodes.mapM readField
  let removedNumbers ← readItems node "removed_numbers"
  let modulePath ← Read.ofValue (node.require "module_path")
  .ok { key, name, kind, fields, removedNumbers, ancestors, modulePath }

/-- Reads a record. -/
def readRecord (key : String) (node : Json) : Read Record :=
  match readRecordBody key node with
  | .error (.mismatch (.missing entry)) => .error (.recordMissing key entry)
  | .error (.mismatch (.badValue reason)) => .error (.invalidRecord key reason)
  | result => result

/-- The record of a key, which a document may give as any value. -/
def RecordMap.find (records : RecordMap) (key : Json) : Read Record :=
  if !key.hashable then .error (.mismatch key.unhashable)
  else
    match key with
    | .str s =>
      match records.lookup s with
      | some r => .ok r
      | none => .error (.unknownRecord key)
    | _ => .error (.unknownRecord key)

/-- Reads the records of a document. -/
def readRecords (document : Json) : Read RecordMap := do
  let members ← Read.ofValue (Json.membersOrNone (document.member? "records"))
  members.mapM fun (key, node) => do
    let record ← readRecord key node
    .ok (key, record)

/-! ## Modules -/

/-- Whether a module node has a path: a member of an object, an element of a list, or a part of
a text. -/
def hasPath : Json → Read Bool
  | .obj members => .ok (members.lookup "path").isSome
  | .arr items => .ok (items.contains (.str "path"))
  | .str s => .ok (Text.occursIn "path".toList s.toList)
  | v => .error (.mismatch (.wrongType ("expected a module, not " ++ v.typeName)))

/-- Reads a method; a missing member is not yet named as the method's. -/
def readMethodBody (node : Json) : Read Method := do
  let name ← Read.ofValue (node.require "name")
  let numberNode ← Read.ofValue (node.require "number")
  let number ← Read.ofValue (Whole.ofJson numberNode)
  let requestNode ← Read.ofValue (node.require "request_type")
  let requestType ← readType requestNode
  let responseNode ← Read.ofValue (node.require "response_type")
  let responseType ← readType responseNode
  .ok { name, number, requestType, responseType }

/-- Reads a method. -/
def readMethod (node : Json) : Read Method :=
  match readMethodBody node with
  | .error (.mismatch (.missing entry)) => .error (.methodMissing entry)
  | result => result

/-- Reads a constant; a missing member is not yet named as the constant's. -/
def readConstantBody (node : Json) : Read Constant := do
  let name ← Read.ofValue (node.require "name")
  let typeNode ← Read.ofValue (node.require "type")
  let type ← readType typeNode
  .ok { name, type, value := (node.member? "value").getD .null }

/-- Reads a constant. -/
def readConstant (node : Json) : Read Constant :=
  match readConstantBody node with
  | .error (.mismatch (.missing entry)) => .error (.constantMissing entry)
  | result => result

/-- Reads a module. -/
def readModule (recordMap : RecordMap) (node : Json) : Read Module := do
  if !(← hasPath node) then throw .moduleWithoutPath
  let path ← Read.ofValue (node.require "path")
  let keys ← readItems node "records"
  let records ← keys.mapM recordMap.find
  let importNodes ← Read.ofValue (Json.membersOrNone (node.member? "imports"))
  let imports ← importNodes.mapM fun (importPath, names) => do
    let names ← Read.ofValue names.items
    .ok (importPath, names)
  let methodNodes ← readItems node "methods"
  let methods ← methodNodes.mapM readMethod
  let constantNodes ← readItems node "constants"
  let constants ← constantNodes.mapM readConstant
  .ok { path, records, methods, constants, imports }

/-! ## Documents -/

/-- Checks that every record that a module's types refer to is among the records. -/
def checkReferences (records : RecordMap) (modules : List Module) : Read Unit :=
  modules.forM fun m => m.types.forM fun t => t.recordKeys.forM fun key => do
    let _ ← records.find (.str key)

/-- Reads a document. -/
def readDocument (document : Json) : Read Document := do
  match document with
  | .obj _ => pure ()
  | _ => throw .notAnObject
  let records ← readRecords document
  let moduleNodes ← readItems document "modules"
  let modules ← moduleNodes.mapM (readModule records)
  checkReferences records modules
  .ok { modules, records }

end DartRecords.Schema
