import DartRecords.Proofs.OddTypes

/-!
# Documents of a shape that no rule provides for

`OddDocument` lists, level by level and in the order of reading, the shapes of fields, records,
methods, constants and modules whose mismatch gets out.  A document is read, or refused with an
error that names the node at fault, exactly if it is of none of them
(`document_read_or_refused_iff`).
-/

namespace DartRecords.Schema

/-! ## Fields -/

/-- The node of a field's number. -/
def fieldNumber (node : Json) : Json := (node.member? "number").getD (.int 0)

/-- The field has a name, and its recursion is read. -/
structure FieldHead (node : Json) : Prop where
  recursion : Reads (readRecursion (node.member? "recursive") node)
  name : (node.member? "name").isSome = true

/-- Reading the field gets to a value of another shape than expected. -/
inductive OddField (node : Json) : Prop where
  /-- The field is not an object. -/
  | node (odd : node.isObject = false)
  /-- The number is no value to count with. -/
  | number (head : FieldHead node) (odd : (fieldNumber node).isUncountable = true)
  /-- The type is odd. -/
  | type {t : Json} (head : FieldHead node)
    (number : Reads (Read.ofValue (Whole.ofJson (fieldNumber node))))
      (member : node.member? "type" = some t) (odd : OddType t)

theorem FieldHead.reads {node : Json} (head : FieldHead node) :
    Reads (readRecursion (node.member? "recursive") node) ∧
      ∃ name, node.isObject = true ∧ Read.ofValue (node.require "name") = .ok name := by
  obtain ⟨name, hname⟩ := Option.isSome_iff_exists.1 head.name
  exact ⟨head.recursion, name, Json.isObject_of_member? hname, require_eq_ok hname⟩

theorem not_escapes_readRecursion {flag : Option Json} {node : Json} :
    ¬Escapes .record (readRecursion flag node) := by
  unfold readRecursion
  split
  · exact not_escapes_ok _
  · exact not_escapes_ok _
  · exact not_escapes_ok _
  · exact not_escapes_ok _
  · split
    · exact not_escapes_ok _
    · exact not_escapes_error (by simp)

theorem oddField_of_escapes {node : Json} (h : Escapes .record (readField node)) :
    OddField node := by
  unfold readField at h
  rcases escapes_lookup_bind_iff.1 h with odd | ⟨_, h⟩
  · exact .node odd
  rcases escapes_lookup_bind_iff.1 h with odd | ⟨_, h⟩
  · exact .node odd
  rcases escapes_bind_iff.1 h with h | ⟨recursion, hrecursion, h⟩
  · exact absurd h not_escapes_readRecursion
  rcases (escapes_require_bind_iff (by decide)).1 h with odd | ⟨name, hname, h⟩
  · exact .node odd
  have hhead : FieldHead node := ⟨⟨_, hrecursion⟩, Option.isSome_iff_exists.2 ⟨name, hname⟩⟩
  rcases escapes_bind_iff.1 h with h | ⟨number, hnumber, h⟩
  · exact .number hhead (escapes_number_iff.1 h)
  dsimp only at h
  split at h
  · exact absurd h (not_escapes_ok _)
  · exact absurd h (not_escapes_ok _)
  · rename_i t _ ht
    rcases escapes_bind_iff.1 h with h | ⟨_, _, h⟩
    · exact .type hhead ⟨number, hnumber⟩ ht
        ((escapes_readType_iff (by decide)).1 (escapes_map_iff.1 h))
    · exact absurd h (not_escapes_ok _)

theorem escapes_of_oddField {node : Json} (h : OddField node) :
    Escapes .record (readField node) := by
  unfold readField
  cases h with
  | node odd => exact (escapes_lookup_iff.2 odd).of_first _
  | number head odd =>
    obtain ⟨⟨recursion, hrecursion⟩, name, hobject, hname⟩ := head.reads
    refine .of_next (lookup_eq_ok hobject) (.of_next (lookup_eq_ok hobject) ?_)
    refine .of_next hrecursion (.of_next hname ?_)
    exact (escapes_number_iff.2 odd).of_first _
  | type head number member odd =>
    obtain ⟨⟨recursion, hrecursion⟩, name, hobject, hname⟩ := head.reads
    obtain ⟨number, hnumber⟩ := number
    refine .of_next (lookup_eq_ok hobject) (.of_next (lookup_eq_ok hobject) ?_)
    refine .of_next hrecursion (.of_next hname (.of_next hnumber ?_))
    dsimp only
    rw [member]
    split
    · contradiction
    · rename_i hnull
      cases hnull
      exact absurd odd not_oddType_null
    · rename_i ht
      cases ht
      exact (escapes_map_iff.2 ((escapes_readType_iff (by decide)).2 odd)).of_first _

theorem escapes_readField_iff {node : Json} : Escapes .record (readField node) ↔ OddField node :=
  ⟨oddField_of_escapes, escapes_of_oddField⟩

/-! ## Records -/

/-- The record has a kind. -/
def HasKind (node : Json) : Prop :=
  ∃ v, node.member? "record_type" = some v ∧ Reads (readKind v)

/-- The record has a kind and ancestors. -/
structure RecordHead (node : Json) : Prop where
  kind : HasKind node
  ancestors : Reads (readAncestors node)

/-- Reading the record gets to a value of another shape than expected. -/
inductive OddRecord (node : Json) : Prop where
  /-- The record is not an object. -/
  | node (odd : node.isObject = false)
  /-- The ancestors are no items. -/
  | ancestors {v : Json} (kind : HasKind node) (member : node.member? "ancestors" = some v)
      (present : v.truthy = true) (odd : v.isIterable = false)
  /-- The fields are odd. -/
  | fields (head : RecordHead node)
      (odd : OddList (fun field => Reads (readField field)) OddField node "fields")
  /-- The removed numbers are no items. -/
  | removedNumbers (head : RecordHead node) (fields : Reads (readList readField node "fields"))
      (odd : OddItems node "removed_numbers")

theorem not_escapes_readKind {v : Json} : ¬Escapes .record (readKind v) := by
  unfold readKind
  split
  · exact not_escapes_ok _
  · exact not_escapes_ok _
  · rintro ⟨cause, hcause, h⟩
    cases h
    cases hcause

theorem escapes_readAncestors_iff {node : Json} (hobject : node.isObject = true) :
    Escapes .record (readAncestors node) ↔
      ∃ v, node.member? "ancestors" = some v ∧ v.truthy = true ∧ v.isIterable = false := by
  have hname : ¬Escapes .record ((fun name => [name]) <$> Read.ofValue (node.require "name")) := by
    rw [escapes_map_iff, escapes_require_iff (by decide), hobject]
    exact Bool.noConfusion
  rw [readAncestors]
  cases node.member? "ancestors" with
  | none => simp [hname]
  | some v => cases htruthy : v.truthy <;> simp [htruthy, hname, escapes_items_iff]

theorem oddRecord_of_escapes {key : String} {node : Json}
    (h : Escapes .record (readRecordBody key node)) :
    OddRecord node := by
  unfold readRecordBody at h
  rcases (escapes_require_bind_iff (by decide)).1 h with odd | ⟨kindNode, hkindNode, h⟩
  · exact .node odd
  rcases escapes_bind_iff.1 h with h | ⟨kind, hkind, h⟩
  · exact absurd h not_escapes_readKind
  have hhasKind : HasKind node := ⟨kindNode, hkindNode, kind, hkind⟩
  rcases escapes_bind_iff.1 h with h | ⟨ancestors, hancestors, h⟩
  · obtain ⟨v, hv, present, odd⟩ :=
      (escapes_readAncestors_iff (Json.isObject_of_member? hkindNode)).1 h
    exact .ancestors hhasKind hv present odd
  have hhead : RecordHead node := ⟨hhasKind, ancestors, hancestors⟩
  rw [← readList_bind] at h
  rcases escapes_bind_iff.1 h with h | ⟨fields, hfields, h⟩
  · exact .fields hhead ((escapes_readList_iff fun _ => escapes_readField_iff).1 h)
  rcases escapes_bind_iff.1 h with h | ⟨removed, _, h⟩
  · exact .removedNumbers hhead ⟨fields, hfields⟩ (escapes_readItems_iff.1 h)
  rcases (escapes_require_bind_iff (by decide)).1 h with odd | ⟨_, _, h⟩
  · exact .node odd
  · exact absurd h (not_escapes_ok _)

theorem escapes_of_oddRecord {node : Json} (key : String) (h : OddRecord node) :
    Escapes .record (readRecordBody key node) := by
  unfold readRecordBody
  cases h with
  | node odd => exact ((escapes_require_iff (by decide)).2 odd).of_first _
  | ancestors kind member present odd =>
    obtain ⟨kindNode, hkindNode, kind, hkind⟩ := kind
    refine .of_next (require_eq_ok hkindNode) (.of_next hkind (Escapes.of_first ?_ _))
    exact (escapes_readAncestors_iff (Json.isObject_of_member? member)).2 ⟨_, member, present, odd⟩
  | fields head odd =>
    obtain ⟨⟨kindNode, hkindNode, kind, hkind⟩, ancestors, hancestors⟩ := head
    refine .of_next (require_eq_ok hkindNode) (.of_next hkind (.of_next hancestors ?_))
    rw [← readList_bind]
    exact ((escapes_readList_iff fun _ => escapes_readField_iff).2 odd).of_first _
  | removedNumbers head fields odd =>
    obtain ⟨⟨kindNode, hkindNode, kind, hkind⟩, ancestors, hancestors⟩ := head
    obtain ⟨fields, hfields⟩ := fields
    refine .of_next (require_eq_ok hkindNode) (.of_next hkind (.of_next hancestors ?_))
    rw [← readList_bind]
    exact .of_next hfields ((escapes_readItems_iff.2 odd).of_first _)

theorem escapes_readRecordBody_iff {key : String} {node : Json} :
    Escapes .record (readRecordBody key node) ↔ OddRecord node :=
  ⟨oddRecord_of_escapes, escapes_of_oddRecord key⟩

theorem escapes_readRecord_iff {key : String} {node : Json} :
    Escapes .bare (readRecord key node) ↔ OddRecord node := by
  rw [← @escapes_readRecordBody_iff key node, readRecord]
  cases readRecordBody key node with
  | ok r => simp [not_escapes_ok]
  | error e =>
    cases e with
    | mismatch cause => cases cause <;> simp [Escapes, Guard.catches]
    | _ => simp [Escapes]

/-! ## Methods and constants -/

/-- The method has a name and a number. -/
structure MethodHead (node : Json) : Prop where
  name : (node.member? "name").isSome = true
  number : ∃ v n, node.member? "number" = some v ∧ Whole.ofJson v = .ok n

/-- Reading the method gets to a value of another shape than expected, or to a number that is
none. -/
inductive OddMethod (node : Json) : Prop where
  /-- The method is not an object. -/
  | node (odd : node.isObject = false)
  /-- The number is none. -/
  | number {v : Json} (name : (node.member? "name").isSome = true)
      (member : node.member? "number" = some v) (odd : ∀ n, Whole.ofJson v ≠ .ok n)
  /-- The type of the request is odd. -/
  | requestType {t : Json} (head : MethodHead node) (member : node.member? "request_type" = some t)
      (odd : OddType t)
  /-- The type of the response is odd. -/
  | responseType {t t' : Json} (head : MethodHead node)
    (request : node.member? "request_type" = some t)
      (read : Reads (readType t)) (member : node.member? "response_type" = some t')
        (odd : OddType t')

/-- Reading the constant gets to a value of another shape than expected. -/
inductive OddConstant (node : Json) : Prop where
  /-- The constant is not an object. -/
  | node (odd : node.isObject = false)
  /-- The type is odd. -/
  | type {t : Json} (name : (node.member? "name").isSome = true)
      (member : node.member? "type" = some t) (odd : OddType t)

theorem oddMethod_of_escapes {node : Json} (h : Escapes .members (readMethodBody node)) :
    OddMethod node := by
  unfold readMethodBody at h
  rcases (escapes_require_bind_iff (by decide)).1 h with odd | ⟨name, hname, h⟩
  · exact .node odd
  have hname : (node.member? "name").isSome = true := Option.isSome_iff_exists.2 ⟨name, hname⟩
  rcases (escapes_require_bind_iff (by decide)).1 h with odd | ⟨numberNode, hnumberNode, h⟩
  · exact .node odd
  rcases escapes_bind_iff.1 h with h | ⟨number, hnumber, h⟩
  · exact .number hname hnumberNode (escapes_methodNumber_iff.1 h)
  have hhead : MethodHead node :=
    ⟨hname, numberNode, number, hnumberNode, mapError_eq_ok_iff.1 hnumber⟩
  rcases (escapes_require_bind_iff (by decide)).1 h with odd | ⟨request, hrequest, h⟩
  · exact .node odd
  rcases escapes_bind_iff.1 h with h | ⟨requestType, hrequestType, h⟩
  · exact .requestType hhead hrequest ((escapes_readType_iff (by decide)).1 h)
  rcases (escapes_require_bind_iff (by decide)).1 h with odd | ⟨response, hresponse, h⟩
  · exact .node odd
  rcases escapes_bind_iff.1 h with h | ⟨_, _, h⟩
  · exact .responseType hhead hrequest ⟨requestType, hrequestType⟩ hresponse
      ((escapes_readType_iff (by decide)).1 h)
  · exact absurd h (not_escapes_ok _)

theorem escapes_of_oddMethod {node : Json} (h : OddMethod node) :
    Escapes .members (readMethodBody node) := by
  unfold readMethodBody
  cases h with
  | node odd => exact ((escapes_require_iff (by decide)).2 odd).of_first _
  | number name member odd =>
    obtain ⟨name, hname⟩ := Option.isSome_iff_exists.1 name
    refine .of_next (require_eq_ok hname) (.of_next (require_eq_ok member) ?_)
    exact (escapes_methodNumber_iff.2 odd).of_first _
  | requestType head member odd =>
    obtain ⟨hname, numberNode, number, hmember, hnumber⟩ := head
    obtain ⟨name, hname⟩ := Option.isSome_iff_exists.1 hname
    refine .of_next (require_eq_ok hname) (.of_next (require_eq_ok hmember) ?_)
    refine .of_next (mapError_eq_ok_iff.2 hnumber) (.of_next (require_eq_ok member) ?_)
    exact ((escapes_readType_iff (by decide)).2 odd).of_first _
  | responseType head request read member odd =>
    obtain ⟨hname, numberNode, number, hmember, hnumber⟩ := head
    obtain ⟨name, hname⟩ := Option.isSome_iff_exists.1 hname
    obtain ⟨requestType, hrequestType⟩ := read
    refine .of_next (require_eq_ok hname) (.of_next (require_eq_ok hmember) ?_)
    refine .of_next (mapError_eq_ok_iff.2 hnumber) (.of_next (require_eq_ok request) ?_)
    refine .of_next hrequestType (.of_next (require_eq_ok member) ?_)
    exact ((escapes_readType_iff (by decide)).2 odd).of_first _

theorem escapes_readMethodBody_iff {node : Json} :
    Escapes .members (readMethodBody node) ↔ OddMethod node :=
  ⟨oddMethod_of_escapes, escapes_of_oddMethod⟩

theorem escapes_readConstantBody_iff {node : Json} :
    Escapes .members (readConstantBody node) ↔ OddConstant node := by
  unfold readConstantBody
  constructor
  · intro h
    rcases (escapes_require_bind_iff (by decide)).1 h with odd | ⟨name, hname, h⟩
    · exact .node odd
    rcases (escapes_require_bind_iff (by decide)).1 h with odd | ⟨typeNode, htypeNode, h⟩
    · exact .node odd
    rcases escapes_bind_iff.1 h with h | ⟨_, _, h⟩
    · exact .type (Option.isSome_iff_exists.2 ⟨name, hname⟩) htypeNode
        ((escapes_readType_iff (by decide)).1 h)
    · exact absurd h (not_escapes_ok _)
  · intro h
    cases h with
    | node odd => exact ((escapes_require_iff (by decide)).2 odd).of_first _
    | type name member odd =>
      obtain ⟨name, hname⟩ := Option.isSome_iff_exists.1 name
      refine .of_next (require_eq_ok hname) (.of_next (require_eq_ok member) ?_)
      exact ((escapes_readType_iff (by decide)).2 odd).of_first _

theorem escapes_readMethod_iff {node : Json} :
    Escapes .bare (readMethod node) ↔ OddMethod node := by
  rw [← escapes_readMethodBody_iff, readMethod]
  cases readMethodBody node with
  | ok m => simp [not_escapes_ok]
  | error e =>
    cases e with
    | mismatch cause => cases cause <;> simp [Escapes, Guard.catches]
    | _ => simp [Escapes]

theorem escapes_readConstant_iff {node : Json} :
    Escapes .bare (readConstant node) ↔ OddConstant node := by
  rw [← escapes_readConstantBody_iff, readConstant]
  cases readConstantBody node with
  | ok c => simp [not_escapes_ok]
  | error e =>
    cases e with
    | mismatch cause => cases cause <;> simp [Escapes, Guard.catches]
    | _ => simp [Escapes]

/-! ## Modules -/

/-- Reads the names of an import. -/
def readNames (entry : String × Json) : Read (String × List Json) := do
  let names ← Read.ofValue entry.2.items
  .ok (entry.1, names)

/-- The module has a path, and all of its records are known. -/
structure ModuleHead (records : RecordMap) (node : Json) : Prop where
  path : (node.member? "path").isSome = true
  records : Reads (readList records.find node "records")

/-- The names that the module imports are read, too. -/
structure ModuleImports (records : RecordMap) (node : Json) :
    Prop extends ModuleHead records node where
  imports : Reads (readEntries readNames node "imports")

/-- So are its methods. -/
structure ModuleMethods (records : RecordMap) (node : Json) :
    Prop extends ModuleImports records node where
  methods : Reads (readList readMethod node "methods")

/-- Reading the module gets to a value of another shape than expected. -/
inductive OddModule (records : RecordMap) (node : Json) : Prop where
  /-- The module is no value to look for a path in. -/
  | node (odd : node.isIterable = false)
  /-- The path is an element of a list or a part of a text. -/
  | path (found : hasPath node = .ok true) (odd : node.isObject = false)
  /-- The records are no items, or the key of one is no key of a table. -/
  | records (path : (node.member? "path").isSome = true)
      (odd : OddList (fun key => Reads (records.find key)) (fun key => key.hashable = false)
        node "records")
  /-- The imports are not an object, or the names of one are no items. -/
  | imports (head : ModuleHead records node)
      (odd : OddEntries (fun entry => entry.2.isIterable = true)
        (fun entry => entry.2.isIterable = false)
        node "imports")
  /-- The methods are odd. -/
  | methods (head : ModuleImports records node)
      (odd : OddList (fun method => Reads (readMethod method)) OddMethod node "methods")
  /-- The constants are odd. -/
  | constants (head : ModuleMethods records node)
      (odd : OddList (fun constant => Reads (readConstant constant)) OddConstant node "constants")

section
variable {records : RecordMap} {node : Json}

theorem escapes_hasPath_iff : Escapes .bare (hasPath node) ↔ node.isIterable = false := by
  cases node <;> simp [Escapes, hasPath, Json.isIterable, Guard.catches]

theorem hasPath_of_member? {path : Json} (h : node.member? "path" = some path) :
    hasPath node = .ok true := by
  cases node with
  | obj members =>
    rw [Json.member?] at h
    rw [hasPath, h]
    rfl
  | _ => cases h

/-- A module with a path is an object that has the member, or no object. -/
theorem member?_or_odd_of_hasPath (h : hasPath node = .ok true) :
    (∃ path, node.member? "path" = some path) ∨ node.isObject = false := by
  cases node with
  | obj members => exact .inl (Option.isSome_iff_exists.1 (Except.ok.inj h))
  | _ => exact .inr rfl

theorem escapes_find_iff {key : Json} :
    Escapes .bare (records.find key) ↔ key.hashable = false := by
  unfold RecordMap.find
  cases hhashable : key.hashable with
  | false => simp [Escapes, Guard.catches]
  | true =>
    refine iff_of_false ?_ Bool.noConfusion
    rw [if_neg (by simp)]
    split
    · split
      · exact not_escapes_ok _
      · exact not_escapes_error (by simp)
    · exact not_escapes_error (by simp)

theorem reads_names_iff {entry : String × Json} :
    Reads (readNames entry) ↔ entry.2.isIterable = true := by
  rw [← Json.exists_items_iff]
  constructor
  · rintro ⟨_, h⟩
    obtain ⟨names, hnames, -⟩ := bind_eq_ok h
    exact ⟨names, mapError_eq_ok_iff.1 hnames⟩
  · rintro ⟨names, hnames⟩
    exact ⟨(entry.1, names), by rw [readNames, hnames]; rfl⟩

theorem escapes_names_iff {entry : String × Json} :
    Escapes .bare (readNames entry) ↔ entry.2.isIterable = false := by
  rw [readNames, escapes_bind_iff, escapes_items_iff]
  simp [not_escapes_ok]

/-- Reads a module that has a path. -/
def readModuleAt (records : RecordMap) (path node : Json) : Read Module := do
  let records ← readList records.find node "records"
  let imports ← readEntries readNames node "imports"
  let methods ← readList readMethod node "methods"
  let constants ← readList readConstant node "constants"
  .ok { path, records, methods, constants, imports }

theorem readModule_eq {path : Json} (h : node.member? "path" = some path) :
    readModule records node = readModuleAt records path node := by
  rw [readModule, hasPath_of_member? h]
  simp only [readModuleAt, readList_bind, readEntries_bind]
  change Read.ofValue (node.require "path") >>= _ = _
  rw [require_eq_ok h]
  rfl

theorem oddModule_of_escapes {path : Json} (hpath : node.member? "path" = some path)
    (h : Escapes .bare (readModuleAt records path node)) : OddModule records node := by
  have hpath : (node.member? "path").isSome = true := Option.isSome_iff_exists.2 ⟨path, hpath⟩
  rcases escapes_bind_iff.1 h with h | ⟨_, hrecords, h⟩
  · exact .records hpath ((escapes_readList_iff fun _ => escapes_find_iff).1 h)
  have hhead : ModuleHead records node := ⟨hpath, _, hrecords⟩
  rcases escapes_bind_iff.1 h with h | ⟨_, himports, h⟩
  · exact .imports hhead
      ((escapes_readEntries_iff (fun _ => reads_names_iff) (fun _ => escapes_names_iff)).1 h)
  have himports : ModuleImports records node := ⟨hhead, _, himports⟩
  rcases escapes_bind_iff.1 h with h | ⟨_, hmethods, h⟩
  · exact .methods himports ((escapes_readList_iff fun _ => escapes_readMethod_iff).1 h)
  have hmethods : ModuleMethods records node := ⟨himports, _, hmethods⟩
  rcases escapes_bind_iff.1 h with h | ⟨_, _, h⟩
  · exact .constants hmethods ((escapes_readList_iff fun _ => escapes_readConstant_iff).1 h)
  · exact absurd h (not_escapes_ok _)

theorem escapes_of_oddModule (h : OddModule records node) :
    Escapes .bare (readModule records node) := by
  cases h with
  | node odd =>
    rw [readModule]
    exact (escapes_hasPath_iff.2 odd).of_first _
  | path found odd =>
    rw [readModule]
    refine .of_next found (Escapes.of_first ?_ _)
    cases node with
    | obj members => cases odd
    | _ => exact ⟨_, rfl, rfl⟩
  | records path odd =>
    obtain ⟨path, hpath⟩ := Option.isSome_iff_exists.1 path
    rw [readModule_eq hpath]
    exact ((escapes_readList_iff fun _ => escapes_find_iff).2 odd).of_first _
  | imports head odd =>
    obtain ⟨path, ⟨_, hrecords⟩⟩ := head
    obtain ⟨path, hpath⟩ := Option.isSome_iff_exists.1 path
    rw [readModule_eq hpath]
    refine .of_next hrecords (Escapes.of_first ?_ _)
    exact (escapes_readEntries_iff (fun _ => reads_names_iff) (fun _ => escapes_names_iff)).2 odd
  | methods head odd =>
    obtain ⟨⟨path, ⟨_, hrecords⟩⟩, ⟨_, himports⟩⟩ := head
    obtain ⟨path, hpath⟩ := Option.isSome_iff_exists.1 path
    rw [readModule_eq hpath]
    refine .of_next hrecords (.of_next himports (Escapes.of_first ?_ _))
    exact (escapes_readList_iff fun _ => escapes_readMethod_iff).2 odd
  | constants head odd =>
    obtain ⟨⟨⟨path, ⟨_, hrecords⟩⟩, ⟨_, himports⟩⟩, ⟨_, hmethods⟩⟩ := head
    obtain ⟨path, hpath⟩ := Option.isSome_iff_exists.1 path
    rw [readModule_eq hpath]
    refine .of_next hrecords (.of_next himports (.of_next hmethods (Escapes.of_first ?_ _)))
    exact (escapes_readList_iff fun _ => escapes_readConstant_iff).2 odd

theorem escapes_readModule_iff :
    Escapes .bare (readModule records node) ↔ OddModule records node := by
  refine ⟨fun h => ?_, escapes_of_oddModule⟩
  rcases escapes_bind_iff.1 h with hnode | ⟨found, hfound, hrest⟩
  · exact .node (escapes_hasPath_iff.1 hnode)
  · cases found with
    | false => exact absurd hrest (not_escapes_error (e := .moduleWithoutPath) (by simp))
    | true =>
      rcases member?_or_odd_of_hasPath hfound with ⟨path, hpath⟩ | odd
      · rw [readModule_eq hpath] at h
        exact oddModule_of_escapes hpath h
      · exact .path hfound odd

end

/-! ## Documents -/

/-- Reads a record together with its key. -/
def readKeyed (entry : String × Json) : Read (String × Record) := do
  let record ← readRecord entry.1 entry.2
  .ok (entry.1, record)

/-- Reading the document gets to a value of another shape than expected. -/
inductive OddDocument (document : Json) : Prop where
  /-- The records are not an object, or one is odd. -/
  | records (odd : OddEntries (fun entry => Reads (readRecord entry.1 entry.2))
      (fun entry => OddRecord entry.2) document "records")
  /-- The modules are odd. -/
  | modules {records : RecordMap} (read : readRecords document = .ok records)
      (odd : OddList (fun node => Reads (readModule records node))
        (OddModule records) document "modules")

theorem reads_keyed_iff {entry : String × Json} :
    Reads (readKeyed entry) ↔ Reads (readRecord entry.1 entry.2) := by
  constructor
  · rintro ⟨_, h⟩
    obtain ⟨record, hrecord, -⟩ := bind_eq_ok h
    exact ⟨record, hrecord⟩
  · rintro ⟨record, hrecord⟩
    exact ⟨(entry.1, record), by rw [readKeyed, hrecord]; rfl⟩

theorem escapes_keyed_iff {entry : String × Json} :
    Escapes .bare (readKeyed entry) ↔ OddRecord entry.2 := by
  rw [readKeyed, escapes_bind_iff, escapes_readRecord_iff]
  simp [not_escapes_ok]

theorem escapes_readRecords_iff {document : Json} :
    Escapes .bare (readRecords document) ↔
      OddEntries (fun entry => Reads (readRecord entry.1 entry.2)) (fun entry => OddRecord entry.2)
        document "records" :=
  escapes_readEntries_iff (fun _ => reads_keyed_iff) (fun _ => escapes_keyed_iff)

theorem not_escapes_checkReferences {records : RecordMap} {modules : List Module} :
    ¬Escapes .bare (checkReferences records modules) := by
  refine not_escapes_forM fun module _ => not_escapes_forM fun t _ =>
    not_escapes_forM fun key _ => ?_
  rw [escapes_bind_iff, escapes_find_iff]
  rintro (h | ⟨_, _, h⟩)
  · cases h
  · exact absurd h (not_escapes_ok _)

theorem OddList.isObject {fine odd : Json → Prop} {node : Json} {key : String}
    (h : OddList fine odd node key) : node.isObject = true := by
  rcases h with ⟨_, hmember, _⟩ | ⟨hnodes, hodd⟩
  · exact Json.isObject_of_member? hmember
  · cases hmember : node.member? key with
    | some v => exact Json.isObject_of_member? hmember
    | none =>
      rw [readItems, hmember] at hnodes
      cases hnodes
      exact absurd hodd not_firstOdd_nil

theorem OddEntries.isObject {fine odd : String × Json → Prop} {node : Json} {key : String}
    (h : OddEntries fine odd node key) : node.isObject = true := by
  rcases h with ⟨_, hmember, _⟩ | ⟨hentries, hodd⟩
  · exact Json.isObject_of_member? hmember
  · cases hmember : node.member? key with
    | some v => exact Json.isObject_of_member? hmember
    | none =>
      rw [hmember] at hentries
      cases hentries
      exact absurd hodd not_firstOdd_nil

theorem readDocument_eq {document : Json} (h : document.isObject = true) :
    readDocument document = (do
      let records ← readRecords document
      let modules ← readList (readModule records) document "modules"
      checkReferences records modules
      .ok { modules, records }) := by
  cases document with
  | obj members =>
    simp only [readList_bind]
    rfl
  | _ => cases h

theorem escapes_readDocument_iff {document : Json} :
    Escapes .bare (readDocument document) ↔ OddDocument document := by
  constructor
  · intro h
    cases hobject : document.isObject with
    | false =>
      cases document with
      | obj members => cases hobject
      | _ => exact absurd h (not_escapes_error (e := .notAnObject) (by simp))
    | true =>
      rw [readDocument_eq hobject] at h
      rcases escapes_bind_iff.1 h with h | ⟨records, hrecords, h⟩
      · exact .records (escapes_readRecords_iff.1 h)
      rcases escapes_bind_iff.1 h with h | ⟨modules, _, h⟩
      · exact .modules hrecords ((escapes_readList_iff fun _ => escapes_readModule_iff).1 h)
      rcases escapes_bind_iff.1 h with h | ⟨_, _, h⟩
      · exact absurd h not_escapes_checkReferences
      · exact absurd h (not_escapes_ok _)
  · intro h
    cases h with
    | records odd =>
      rw [readDocument_eq odd.isObject]
      exact (escapes_readRecords_iff.2 odd).of_first _
    | modules read odd =>
      rw [readDocument_eq odd.isObject]
      refine .of_next read (Escapes.of_first ?_ _)
      exact (escapes_readList_iff fun _ => escapes_readModule_iff).2 odd

/-- A document is read, or refused with an error that names the node at fault, exactly if reading it
does not get to a value of a shape that no rule provides for. -/
theorem document_read_or_refused_iff (document : Json) :
    ((∃ d, readDocument document = .ok d) ∨
        ∃ e, readDocument document = .error e ∧ ∀ cause, e ≠ .mismatch cause) ↔
      ¬OddDocument document := by
  rw [← escapes_readDocument_iff]
  cases hread : readDocument document with
  | ok d => simp [not_escapes_ok]
  | error e => simp [Escapes, Guard.catches]

/-- A number in the place of a module is odd: nothing can be looked for in it. -/
theorem number_module_escapes :
    readDocument (.obj [("modules", .arr [.int 5])]) =
      .error (.mismatch (.wrongType "expected a module, not int")) := rfl

end DartRecords.Schema
