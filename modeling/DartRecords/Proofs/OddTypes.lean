import DartRecords.Proofs.ListRelations
import DartRecords.Schema.Reader

/-!
# Values of a shape that no rule provides for

Reading refuses a document with an error that names the node at fault.  Some nodes are only looked
at through an operation that values of another shape do not have, and then the mismatch of that
operation gets out as it is.  Records name the members that they lack and the values that they
cannot use; methods and constants name the members that they lack; modules and documents name
neither.

This module says which mismatches get out of a reader (`Escapes`), what reading step after step and
item after item lets out (`escapes_bind_iff`, `escapes_mapM_iff`), and of which types a mismatch
gets out (`escapes_readType_iff`).
-/

namespace DartRecords.Json

/-! ## Shapes of values -/

/-- Whether the value is an object. -/
def isObject : Json → Bool
  | .obj _ => true
  | _ => false

/-- Whether the value has items: a list, a text or an object. -/
def isIterable : Json → Bool
  | .arr _ | .str _ | .obj _ => true
  | _ => false

/-- Whether the value counts as no number, whatever a text says: null, a list, an object or an
infinite number. -/
def isUncountable : Json → Bool
  | .null | .arr _ | .obj _ | .real (.infinite _) => true
  | _ => false

variable {v w : Json} {key : String}

theorem isObject_of_member? (h : v.member? key = some w) : v.isObject = true := by
  cases v <;> simp_all [member?, isObject]

theorem lookup_eq_ok_iff {found : Option Json} :
    v.lookup key = .ok found ↔ v.isObject = true ∧ v.member? key = found := by
  cases v <;> simp [lookup, member?, isObject]

theorem require_eq_ok_iff : v.require key = .ok w ↔ v.member? key = some w := by
  cases v with
  | obj members => cases h : members.lookup key <;> simp [require, member?, h]
  | _ => simp [require, member?]

theorem exists_items_iff : (∃ items, v.items = .ok items) ↔ v.isIterable = true := by
  cases v <;> simp [items, isIterable]

/-- The members of an optional object are there unless something else counts as present. -/
theorem membersOrNone_eq_error_iff {found : Option Json} :
    (∃ cause, membersOrNone found = .error cause) ↔
      ∃ v, found = some v ∧ v.truthy = true ∧ v.isObject = false := by
  cases found with
  | none => simp [membersOrNone]
  | some v =>
    cases htruthy : v.truthy with
    | false => simp [membersOrNone, htruthy]
    | true => cases v <;> simp [membersOrNone, htruthy, isObject]

/-! ## Depth of members -/

theorem depth_lt_of_member? (h : v.member? key = some w) : w.depth < v.depth := by
  cases v with
  | obj members =>
    obtain ⟨before, after, rfl, -⟩ := List.lookup_eq_some_iff.1 h
    exact height_lt_of_mem_members (m := (key, w)) (List.mem_append_right before List.mem_cons_self)
  | _ => cases h

end DartRecords.Json

namespace DartRecords.Schema

/-! ## Mismatches that get out -/

/-- Which mismatches a reader gives a name. -/
inductive Guard where
  /-- None, as for modules and documents. -/
  | bare
  /-- Missing members, as for methods and constants. -/
  | members
  /-- Missing members and values that cannot be used, as for records. -/
  | record
  deriving DecidableEq

/-- Whether the guard gives the mismatch a name. -/
def Guard.catches : Guard → Mismatch → Bool
  | .members, .missing _ => true
  | .record, .missing _ => true
  | .record, .badValue _ => true
  | _, _ => false

variable {α β : Type} {guard : Guard}

/-- The result is a mismatch that the guard lets through. -/
def Escapes (guard : Guard) (result : Read α) : Prop :=
  ∃ cause, guard.catches cause = false ∧ result = .error (.mismatch cause)

/-- The result is a value. -/
def Reads (result : Read α) : Prop := ∃ a, result = .ok a

theorem not_escapes_ok (a : α) : ¬Escapes guard (.ok a) := by
  rintro ⟨cause, -, h⟩
  cases h

theorem not_escapes_error {e : Error} (h : ∀ cause, e ≠ .mismatch cause) :
    ¬Escapes guard (.error e : Read α) := by
  rintro ⟨cause, -, he⟩
  cases he
  exact h cause rfl

theorem escapes_bind_iff {result : Read α} {next : α → Read β} :
    Escapes guard (result >>= next) ↔
      Escapes guard result ∨ ∃ a, result = .ok a ∧ Escapes guard (next a) := by
  cases result with
  | ok a =>
    have hbind : (Except.ok a >>= next : Read β) = next a := rfl
    simp [hbind, not_escapes_ok]
  | error e =>
    have hbind : ((Except.error e : Read α) >>= next) = .error e := rfl
    simp [hbind, Escapes]

theorem Escapes.of_next {result : Read α} {next : α → Read β} {a : α} (ha : result = .ok a)
    (h : Escapes guard (next a)) : Escapes guard (result >>= next) :=
  escapes_bind_iff.2 (.inr ⟨a, ha, h⟩)

theorem Escapes.of_first {result : Read α} (h : Escapes guard result) (next : α → Read β) :
    Escapes guard (result >>= next) :=
  escapes_bind_iff.2 (.inl h)

theorem escapes_ofValue_iff {value : Except Mismatch α} :
    Escapes guard (Read.ofValue value) ↔
      ∃ cause, guard.catches cause = false ∧ value = .error cause := by
  cases value <;> simp [Escapes, Read.ofValue]

theorem escapes_map_iff {result : Read α} {f : α → β} :
    Escapes guard (f <$> result) ↔ Escapes guard result := by
  cases result <;> simp [Escapes, Functor.map, Except.map]

/-- Of the items, one is odd and those before it are fine. -/
def FirstOdd (fine odd : α → Prop) (items : List α) : Prop :=
  ∃ before item after, items = before ++ item :: after ∧ (∀ other ∈ before, fine other) ∧ odd item

theorem not_firstOdd_nil {fine odd : α → Prop} : ¬FirstOdd fine odd [] := by
  rintro ⟨before, item, after, h, -⟩
  cases before <;> cases h

theorem firstOdd_cons_iff {fine odd : α → Prop} {item : α} {items : List α} :
    FirstOdd fine odd (item :: items) ↔ odd item ∨ fine item ∧ FirstOdd fine odd items := by
  constructor
  · rintro ⟨_ | ⟨first, before⟩, found, after, h, hbefore, hodd⟩
    · cases h
      exact .inl hodd
    · cases h
      exact .inr ⟨hbefore _ List.mem_cons_self, before, found, after, rfl,
        fun other hother => hbefore other (List.mem_cons_of_mem _ hother), hodd⟩
  · rintro (hodd | ⟨hfine, before, found, after, rfl, hbefore, hodd⟩)
    · exact ⟨[], item, items, rfl, by simp, hodd⟩
    · exact ⟨item :: before, found, after, rfl, List.forall_mem_cons.2 ⟨hfine, hbefore⟩, hodd⟩

/-- Reading items one by one stops at the first that is not read. -/
theorem escapes_mapM_iff {read : α → Read β} {fine odd : α → Prop}
    (hfine : ∀ item, Reads (read item) ↔ fine item)
    (hodd : ∀ item, Escapes guard (read item) ↔ odd item) (items : List α) :
    Escapes guard (items.mapM read) ↔ FirstOdd fine odd items := by
  induction items with
  | nil => exact iff_of_false (not_escapes_ok _) not_firstOdd_nil
  | cons item items ih =>
    rw [List.mapM_cons, firstOdd_cons_iff, escapes_bind_iff, hodd, ← hfine]
    refine or_congr_right ⟨?_, ?_⟩
    · rintro ⟨b, hb, h⟩
      rcases escapes_bind_iff.1 h with h | ⟨_, _, h⟩
      · exact ⟨⟨b, hb⟩, ih.1 h⟩
      · exact absurd h (not_escapes_ok _)
    · rintro ⟨⟨b, hb⟩, h⟩
      exact ⟨b, hb, (ih.2 h).of_first _⟩

/-- What is only checked, and never with a mismatch, lets none out. -/
theorem not_escapes_forM {check : α → Read PUnit} {items : List α}
    (h : ∀ item ∈ items, ¬Escapes guard (check item)) : ¬Escapes guard (items.forM check) := by
  induction items with
  | nil => exact not_escapes_ok _
  | cons item items ih =>
    change ¬Escapes guard (check item >>= fun _ => items.forM check)
    rw [escapes_bind_iff]
    rintro (hitem | ⟨_, _, hitems⟩)
    · exact h item List.mem_cons_self hitem
    · exact ih (fun other hother => h other (List.mem_cons_of_mem _ hother)) hitems

/-! ## Operations on values -/

section
variable {node v : Json} {key : String}

theorem escapes_lookup_iff :
    Escapes guard (Read.ofValue (v.lookup key)) ↔ v.isObject = false := by
  rw [escapes_ofValue_iff]
  cases v <;> cases guard <;> simp [Json.lookup, Json.lacking, Json.isObject, Guard.catches]

theorem escapes_require_iff (hguard : guard ≠ .bare) :
    Escapes guard (Read.ofValue (v.require key)) ↔ v.isObject = false := by
  rw [escapes_ofValue_iff]
  cases v with
  | obj members =>
    refine iff_of_false ?_ (by simp [Json.isObject])
    rintro ⟨cause, hcause, h⟩
    rw [Json.require] at h
    split at h
    · cases h
    · cases h
      cases guard <;> simp_all [Guard.catches]
  | _ => cases guard <;> simp [Json.require, Json.isObject, Guard.catches]

theorem lookup_eq_ok {node : Json} {key : String} (h : node.isObject = true) :
    Read.ofValue (node.lookup key) = .ok (node.member? key) :=
  mapError_eq_ok_iff.2 (Json.lookup_eq_ok_iff.2 ⟨h, rfl⟩)

theorem require_eq_ok {node v : Json} {key : String} (h : node.member? key = some v) :
    Read.ofValue (node.require key) = .ok v :=
  mapError_eq_ok_iff.2 (Json.require_eq_ok_iff.2 h)

/-- Reading goes on with what a member is, if it is there. -/
theorem escapes_lookup_bind_iff {next : Option Json → Read α} :
    Escapes guard (Read.ofValue (v.lookup key) >>= next) ↔
      v.isObject = false ∨ v.isObject = true ∧ Escapes guard (next (v.member? key)) := by
  rw [escapes_bind_iff, escapes_lookup_iff]
  refine or_congr_right ⟨?_, fun h => ⟨_, lookup_eq_ok h.1, h.2⟩⟩
  rintro ⟨found, hfound, h⟩
  obtain ⟨hobject, rfl⟩ := Json.lookup_eq_ok_iff.1 (mapError_eq_ok_iff.1 hfound)
  exact ⟨hobject, h⟩

/-- Reading goes on with a member that has to be there. -/
theorem escapes_require_bind_iff (hguard : guard ≠ .bare) {next : Json → Read α} :
    Escapes guard (Read.ofValue (v.require key) >>= next) ↔
      v.isObject = false ∨ ∃ w, v.member? key = some w ∧ Escapes guard (next w) := by
  rw [escapes_bind_iff, escapes_require_iff hguard]
  simp only [Read.ofValue, mapError_eq_ok_iff, Json.require_eq_ok_iff]

theorem escapes_items_iff : Escapes guard (Read.ofValue v.items) ↔ v.isIterable = false := by
  rw [escapes_ofValue_iff]
  cases v <;> cases guard <;> simp [Json.items, Json.isIterable, Guard.catches]

/-- The member is there and has no items. -/
def OddItems (node : Json) (key : String) : Prop :=
  ∃ v, node.member? key = some v ∧ v.isIterable = false

theorem escapes_readItems_iff : Escapes guard (readItems node key) ↔ OddItems node key := by
  rw [readItems, OddItems]
  cases node.member? key with
  | none => simp [not_escapes_ok]
  | some v => simp [escapes_items_iff]

/-- The member counts as present and is not an object. -/
def OddMembers (node : Json) (key : String) : Prop :=
  ∃ v, node.member? key = some v ∧ v.truthy = true ∧ v.isObject = false

theorem escapes_membersOrNone_iff :
    Escapes .bare (Read.ofValue (Json.membersOrNone (node.member? key))) ↔ OddMembers node key := by
  rw [escapes_ofValue_iff, OddMembers, ← Json.membersOrNone_eq_error_iff]
  simp [Guard.catches]

/-- Reads the items of a member one by one. -/
def readList (read : Json → Read α) (node : Json) (key : String) : Read (List α) := do
  let nodes ← readItems node key
  nodes.mapM read

theorem readList_bind (read : Json → Read α) (node : Json) (key : String) (next : List α → Read β) :
    readList read node key >>= next = readItems node key >>= fun nodes =>
      nodes.mapM read >>= next :=
  bind_assoc _ _ _

/-- Reading the items of a member gets to a value of another shape than expected. -/
inductive OddList (fine odd : Json → Prop) (node : Json) (key : String) : Prop where
  /-- The member has no items. -/
  | items (odd : OddItems node key)
  /-- An item is odd. -/
  | item {nodes : List Json} (items : readItems node key = .ok nodes)
    (odd : FirstOdd fine odd nodes)

theorem escapes_readList_iff {read : Json → Read α} {odd : Json → Prop}
    (hodd : ∀ item, Escapes guard (read item) ↔ odd item) :
    Escapes guard (readList read node key) ↔
      OddList (fun item => Reads (read item)) odd node key := by
  rw [readList, escapes_bind_iff, escapes_readItems_iff]
  constructor
  · rintro (h | ⟨nodes, hnodes, h⟩)
    · exact .items h
    · exact .item hnodes ((escapes_mapM_iff (fun _ => .rfl) hodd nodes).1 h)
  · rintro (h | ⟨hnodes, h⟩)
    · exact .inl h
    · exact .inr ⟨_, hnodes, (escapes_mapM_iff (fun _ => .rfl) hodd _).2 h⟩

/-- Reads the members of an optional object one by one. -/
def readEntries (read : String × Json → Read α) (node : Json) (key : String) : Read (List α) := do
  let entries ← Read.ofValue (Json.membersOrNone (node.member? key))
  entries.mapM read

theorem readEntries_bind (read : String × Json → Read α) (node : Json) (key : String)
    (next : List α → Read β) :
    readEntries read node key >>= next =
      Read.ofValue (Json.membersOrNone (node.member? key)) >>= fun entries =>
        entries.mapM read >>= next :=
  bind_assoc _ _ _

/-- Reading the members of an optional object gets to a value of another shape than expected. -/
inductive OddEntries (fine odd : String × Json → Prop) (node : Json) (key : String) : Prop where
  /-- The object is something else. -/
  | members (odd : OddMembers node key)
  /-- A member is odd. -/
  | entry {entries : Json.Members} (members : Json.membersOrNone (node.member? key) = .ok entries)
      (odd : FirstOdd fine odd entries)

theorem escapes_readEntries_iff {read : String × Json → Read α} {fine odd : String × Json → Prop}
    (hfine : ∀ entry, Reads (read entry) ↔ fine entry)
    (hodd : ∀ entry, Escapes .bare (read entry) ↔ odd entry) :
    Escapes .bare (readEntries read node key) ↔ OddEntries fine odd node key := by
  rw [readEntries, escapes_bind_iff, escapes_membersOrNone_iff]
  constructor
  · rintro (h | ⟨entries, hentries, h⟩)
    · exact .members h
    · exact .entry (mapError_eq_ok_iff.1 hentries) ((escapes_mapM_iff hfine hodd entries).1 h)
  · rintro (h | ⟨hentries, h⟩)
    · exact .inl h
    · exact .inr ⟨_, mapError_eq_ok_iff.2 hentries, (escapes_mapM_iff hfine hodd _).2 h⟩

theorem ofText_eq_error {cs : List Char} {cause : Mismatch} (h : Whole.ofText cs = .error cause) :
    ∃ detail, cause = .badValue detail := by
  unfold Whole.ofText at h
  grind

/-- A record names the texts that are no numbers, but not the values that no number can be. -/
theorem escapes_number_iff :
    Escapes .record (Read.ofValue (Whole.ofJson v)) ↔ v.isUncountable = true := by
  rw [escapes_ofValue_iff]
  cases v with
  | real x => cases x <;> simp [Whole.ofJson, Json.isUncountable, Guard.catches]
  | str s =>
    refine iff_of_false ?_ (by simp [Json.isUncountable])
    rintro ⟨cause, hcause, h⟩
    obtain ⟨detail, rfl⟩ := ofText_eq_error h
    cases hcause
  | _ => simp [Whole.ofJson, Json.isUncountable, Guard.catches]

/-- A method names neither. -/
theorem escapes_methodNumber_iff :
    Escapes .members (Read.ofValue (Whole.ofJson v)) ↔ ∀ n, Whole.ofJson v ≠ .ok n := by
  rw [escapes_ofValue_iff]
  cases v with
  | real x => cases x <;> simp [Whole.ofJson, Guard.catches]
  | str s =>
    cases h : Whole.ofText s.toList with
    | ok n => simp [Whole.ofJson, h]
    | error cause =>
      obtain ⟨detail, rfl⟩ := ofText_eq_error h
      simp [Whole.ofJson, h, Guard.catches]
  | _ => simp [Whole.ofJson, Guard.catches]

end

/-! ## Types -/

/-- Reads the key of an array type, with the reader of the types in it. -/
def readKeyBy (readPart : Json → Read Ty) (node : Json) (item : Ty) (keyNode : Json) : Read Ty := do
  match ← Read.ofValue (keyNode.lookup "path") with
  | none => .error (.arrayKeyWithoutPath node)
  | some pathNode =>
    if !pathNode.truthy then .error (.arrayKeyWithoutPath node)
    else
      let path ← Read.ofValue pathNode.items
      let keyTypeNode ← Read.ofValue (keyNode.require "key_type")
      let keyType ← readPart keyTypeNode
      .ok (.keyedArray item path keyType)

/-- One level of reading a type, with the reader of the types in it. -/
def readTypeBy (readPart : Json → Read Ty) (node : Json) : Read Ty :=
  match node.member? "kind" with
  | none => .error (.notATypeNode node)
  | some (.str "primitive") =>
    match node.member? "primitive" with
    | some (.str name) =>
      match Primitive.ofName? name with
      | some p => .ok (.primitive p)
      | none => .error (.invalidPrimitive node)
    | _ => .error (.invalidPrimitive node)
  | some (.str "array") =>
    match node.member? "item" with
    | none => .error (.arrayWithoutItem node)
    | some itemNode => do
      let item ← readPart itemNode
      match node.member? "key" with
      | none => .ok (.array item)
      | some keyNode =>
        if !keyNode.truthy then .ok (.array item)
        else readKeyBy readPart node item keyNode
  | some (.str "optional") =>
    match node.member? "other" with
    | none => .error (.optionalWithoutOther node)
    | some otherNode => do
      let other ← readPart otherNode
      .ok (.optional other)
  | some (.str "record") =>
    match node.member? "key" with
    | none => .error (.recordTypeWithoutKey node)
    | some key => .ok (.record key.display)
  | some kind => .error (.unknownKind kind)

theorem readTypeWithin_succ (fuel : Nat) (node : Json) :
    readTypeWithin (fuel + 1) node = readTypeBy (readTypeWithin fuel) node := rfl

theorem bind_congr_of_ok {result : Read α} {next next' : α → Read β}
    (h : ∀ a, result = .ok a → next a = next' a) : result >>= next = result >>= next' := by
  cases result with
  | error e => rfl
  | ok a => exact h a rfl

theorem readKeyBy_congr {read read' : Json → Read Ty} {key : Json}
    (h : ∀ part, part.depth < key.depth → read part = read' part) (node : Json) (item : Ty) :
    readKeyBy read node item key = readKeyBy read' node item key := by
  refine bind_congr_of_ok fun found _ => ?_
  split
  · rfl
  · split
    · rfl
    · refine bind_congr_of_ok fun path _ => bind_congr_of_ok fun keyType hkeyType => ?_
      have hmember := Json.require_eq_ok_iff.1 (mapError_eq_ok_iff.1 hkeyType)
      rw [h keyType (Json.depth_lt_of_member? hmember)]

theorem readTypeBy_congr {read read' : Json → Read Ty} {node : Json}
    (h : ∀ part, part.depth < node.depth → read part = read' part) :
    readTypeBy read node = readTypeBy read' node := by
  unfold readTypeBy
  split
  · rfl
  · rfl
  · split
    · rfl
    · rename_i item hitem
      rw [h item (Json.depth_lt_of_member? hitem)]
      refine bind_congr_of_ok fun _ _ => ?_
      split
      · rfl
      · rename_i key hkey
        split
        · rfl
        · have hdepth := Json.depth_lt_of_member? hkey
          exact readKeyBy_congr (fun part hpart => h part (Nat.lt_trans hpart hdepth)) _ _
  · split
    · rfl
    · rename_i other hother
      rw [h other (Json.depth_lt_of_member? hother)]
  · rfl
  · rfl

/-- More fuel than the depth of a node makes no difference. -/
theorem readTypeWithin_eq {fuel fuel' : Nat} {node : Json} (hfuel : node.depth ≤ fuel)
    (hfuel' : node.depth ≤ fuel') : readTypeWithin fuel node = readTypeWithin fuel' node := by
  induction fuel generalizing fuel' node with
  | zero => exact absurd hfuel (Nat.not_le_of_lt node.depth_pos)
  | succ fuel ih =>
    cases fuel' with
    | zero => exact absurd hfuel' (Nat.not_le_of_lt node.depth_pos)
    | succ fuel' =>
      rw [readTypeWithin_succ, readTypeWithin_succ]
      exact readTypeBy_congr fun part hpart => ih (by omega) (by omega)

/-- A type is read by reading the types in it. -/
theorem readType_eq (node : Json) : readType node = readTypeBy readType node := by
  obtain ⟨fuel, hfuel⟩ := Nat.exists_eq_succ_of_ne_zero (Nat.ne_of_gt node.depth_pos)
  rw [readType, hfuel, readTypeWithin_succ]
  exact readTypeBy_congr fun part hpart => readTypeWithin_eq (by omega) (Nat.le_refl _)

/-- The node is an array type whose item type is read and whose key counts as present. -/
structure HasKey (node key : Json) : Prop where
  array : node.member? "kind" = some (.str "array")
  item : ∃ item, node.member? "item" = some item ∧ Reads (readType item)
  member : node.member? "key" = some key
  present : key.truthy = true

/-- Reading the type gets to a value of another shape than expected. -/
inductive OddType : Json → Prop where
  /-- The item type of an array is odd. -/
  | item {node item : Json} (array : node.member? "kind" = some (.str "array"))
      (member : node.member? "item" = some item) (odd : OddType item) : OddType node
  /-- The key of an array is not an object. -/
  | key {node key : Json} (hasKey : HasKey node key) (odd : key.isObject = false) : OddType node
  /-- The path of a key has no items. -/
  | path {node key path : Json} (hasKey : HasKey node key) (member : key.member? "path" = some path)
      (present : path.truthy = true) (odd : path.isIterable = false) : OddType node
  /-- The type of a key is odd. -/
  | keyType {node key path keyType : Json} (hasKey : HasKey node key)
      (pathMember : key.member? "path" = some path) (present : path.truthy = true)
      (iterable : path.isIterable = true) (member : key.member? "key_type" = some keyType)
      (odd : OddType keyType) : OddType node
  /-- The type that may be absent is odd. -/
  | other {node other : Json} (optional : node.member? "kind" = some (.str "optional"))
      (member : node.member? "other" = some other) (odd : OddType other) : OddType node

/-- The key of an array type is not an object, has a path without items, or has a type whose
mismatch gets out. -/
def KeyEscapes (guard : Guard) (key : Json) : Prop :=
  key.isObject = false ∨
    ∃ path, key.member? "path" = some path ∧ path.truthy = true ∧
      (path.isIterable = false ∨
        path.isIterable = true ∧
          ∃ keyType, key.member? "key_type" = some keyType ∧ Escapes guard (readType keyType))

theorem escapes_readKey_iff (hguard : guard ≠ .bare) {node key : Json} {item : Ty} :
    Escapes guard (readKeyBy readType node item key) ↔ KeyEscapes guard key := by
  rw [readKeyBy, KeyEscapes, escapes_lookup_bind_iff]
  refine or_congr_right ⟨?_, ?_⟩
  · rintro ⟨hobject, h⟩
    split at h
    · exact absurd h (not_escapes_error (by simp))
    · next path hpath =>
      split at h
      · exact absurd h (not_escapes_error (by simp))
      · next htruthy =>
        refine ⟨path, hpath, by simpa using htruthy, ?_⟩
        rcases escapes_bind_iff.1 h with h | ⟨items, hitems, h⟩
        · exact .inl (escapes_items_iff.1 h)
        · refine .inr ⟨Json.exists_items_iff.1 ⟨items, mapError_eq_ok_iff.1 hitems⟩, ?_⟩
          rcases (escapes_require_bind_iff hguard).1 h with odd | ⟨keyType, hkeyType, h⟩
          · rw [hobject] at odd
            cases odd
          · rcases escapes_bind_iff.1 h with h | ⟨_, _, h⟩
            · exact ⟨keyType, hkeyType, h⟩
            · exact absurd h (not_escapes_ok _)
  · rintro ⟨path, hpath, htruthy, h⟩
    refine ⟨Json.isObject_of_member? hpath, ?_⟩
    simp only [hpath, htruthy, Bool.not_true, Bool.false_eq_true, if_false]
    rcases h with hitems | ⟨hitems, keyType, hkeyType, h⟩
    · exact (escapes_items_iff.2 hitems).of_first _
    · obtain ⟨items, hitems⟩ := Json.exists_items_iff.2 hitems
      exact .of_next (mapError_eq_ok_iff.2 hitems)
        (.of_next (require_eq_ok hkeyType) (h.of_first _))

/-- Only array types and optional types let a mismatch out. -/
theorem kind_of_escapes {node : Json} (h : Escapes guard (readType node)) :
    node.member? "kind" = some (.str "array") ∨ node.member? "kind" = some (.str "optional") := by
  rw [readType_eq] at h
  unfold readTypeBy at h
  split at h
  · exact absurd h (not_escapes_error (by simp))
  · split at h
    · split at h
      · exact absurd h (not_escapes_ok _)
      · exact absurd h (not_escapes_error (by simp))
    · exact absurd h (not_escapes_error (by simp))
  · next array => exact .inl array
  · next optional => exact .inr optional
  · split at h
    · exact absurd h (not_escapes_error (by simp))
    · exact absurd h (not_escapes_ok _)
  · exact absurd h (not_escapes_error (by simp))

/-- An array type lets out what its item type does, and then what its key does. -/
theorem escapes_array_iff (hguard : guard ≠ .bare) {node : Json}
    (array : node.member? "kind" = some (.str "array")) :
    Escapes guard (readType node) ↔
      (∃ item, node.member? "item" = some item ∧ Escapes guard (readType item)) ∨
        ∃ key, HasKey node key ∧ KeyEscapes guard key := by
  rw [readType_eq, readTypeBy]
  constructor
  · intro h
    simp only [array] at h
    split at h
    · exact absurd h (not_escapes_error (by simp))
    · next item hitem =>
      rcases escapes_bind_iff.1 h with h | ⟨t, ht, h⟩
      · exact .inl ⟨item, hitem, h⟩
      · split at h
        · exact absurd h (not_escapes_ok _)
        · next key hkey =>
          split at h
          · exact absurd h (not_escapes_ok _)
          · next present =>
            exact .inr ⟨key, ⟨array, ⟨item, hitem, t, ht⟩, hkey, by simpa using present⟩,
              (escapes_readKey_iff hguard).1 h⟩
  · rintro (⟨item, hitem, h⟩ | ⟨key, hasKey, h⟩)
    · rw [array, hitem]
      exact h.of_first _
    · obtain ⟨item, hitem, t, ht⟩ := hasKey.item
      rw [array, hitem]
      refine .of_next ht ?_
      simp only [hasKey.member, hasKey.present, Bool.not_true, Bool.false_eq_true, if_false]
      exact (escapes_readKey_iff hguard).2 h

theorem escapes_optional_iff {node : Json}
    (optional : node.member? "kind" = some (.str "optional")) :
    Escapes guard (readType node) ↔
      ∃ other, node.member? "other" = some other ∧ Escapes guard (readType other) := by
  rw [readType_eq, readTypeBy, optional]
  cases node.member? "other" with
  | none => simp [not_escapes_error]
  | some other => simp [escapes_bind_iff, not_escapes_ok]

theorem escapes_readType_iff (hguard : guard ≠ .bare) {node : Json} :
    Escapes guard (readType node) ↔ OddType node := by
  constructor
  · -- The parts of a type are less deep than the type.
    induction hdepth : node.depth using Nat.strongRecOn generalizing node with
    | ind depth ih =>
      subst hdepth
      intro h
      rcases kind_of_escapes h with array | optional
      · rcases (escapes_array_iff hguard array).1 h with
          ⟨item, hitem, h⟩ | ⟨key, hasKey, odd | ⟨path, hpath, present, h⟩⟩
        · exact .item array hitem (ih _ (Json.depth_lt_of_member? hitem) rfl h)
        · exact .key hasKey odd
        · rcases h with odd | ⟨iterable, keyType, hkeyType, h⟩
          · exact .path hasKey hpath present odd
          · have hdepth := Nat.lt_trans (Json.depth_lt_of_member? hkeyType)
              (Json.depth_lt_of_member? hasKey.member)
            exact .keyType hasKey hpath present iterable hkeyType (ih _ hdepth rfl h)
      · obtain ⟨other, hother, h⟩ := (escapes_optional_iff optional).1 h
        exact .other optional hother (ih _ (Json.depth_lt_of_member? hother) rfl h)
  · intro h
    induction h with
    | item array member _ ih => exact (escapes_array_iff hguard array).2 (.inl ⟨_, member, ih⟩)
    | key hasKey odd =>
      exact (escapes_array_iff hguard hasKey.array).2 (.inr ⟨_, hasKey, .inl odd⟩)
    | path hasKey member present odd =>
      exact (escapes_array_iff hguard hasKey.array).2
        (.inr ⟨_, hasKey, .inr ⟨_, member, present, .inl odd⟩⟩)
    | keyType hasKey pathMember present iterable member _ ih =>
      exact (escapes_array_iff hguard hasKey.array).2
        (.inr ⟨_, hasKey, .inr ⟨_, pathMember, present, .inr ⟨iterable, _, member, ih⟩⟩⟩)
    | other optional member _ ih => exact (escapes_optional_iff optional).2 ⟨_, member, ih⟩

theorem not_oddType_null : ¬OddType .null := by
  intro h
  cases h with
  | item array => cases array
  | key hasKey => cases hasKey.array
  | path hasKey => cases hasKey.array
  | keyType hasKey => cases hasKey.array
  | other optional => cases optional

end DartRecords.Schema
