import DartRecords.Dart.Spelling
import DartRecords.Proofs.ListRelations

/-!
# Spellings of types

What it means that a type has a spelling, one lemma for each kind of type: `spell_record_eq_ok`,
`spell_optional_eq_ok`, `spell_array_eq_ok` and `spell_keyedArray_eq_ok`.  Proofs about spellings
cite them and never unfold the definition.

A type is resolved if the records that it refers to are there and all names in it are texts.  Such a
type has a spelling in every flavour but one (`exists_spell`): a discriminant is of enums only.
-/

namespace DartRecords.Dart

open Schema (Record RecordMap Ty)

/-! ## Texts -/

/-- The value is a text. -/
def IsText (v : Json) : Prop := ∃ text, v = .str text

theorem exists_texts {values : List Json} {P : String → Prop}
    (h : ∀ v ∈ values, ∃ text, v = .str text ∧ P text) :
    ∃ texts : List String, values = texts.map .str ∧ ∀ text ∈ texts, P text := by
  induction values with
  | nil => exact ⟨[], rfl, by simp⟩
  | cons v rest ih =>
    obtain ⟨text, rfl, htext⟩ := h v List.mem_cons_self
    obtain ⟨texts, rfl, htexts⟩ := ih fun w hw => h w (List.mem_cons_of_mem _ hw)
    exact ⟨text :: texts, rfl, List.forall_mem_cons.2 ⟨htext, htexts⟩⟩

theorem textsFrom_map (index : Nat) (texts : List String) :
    Schema.textsFrom index (texts.map .str) = .ok texts := by
  induction texts generalizing index with
  | nil => rfl
  | cons text texts ih => rw [List.map_cons, Schema.textsFrom, ih]

theorem joinTexts_map (separator : String) (texts : List String) :
    Schema.joinTexts separator (texts.map .str) = .ok (separator.intercalate texts) := by
  rw [Schema.joinTexts, textsFrom_map]

/-! ## Resolved types -/

/-- The names of the record and the path of its module are texts. -/
structure TextNamed (record : Record) : Prop where
  ancestors : ∀ name ∈ record.ancestors, IsText name
  path : IsText record.modulePath

/-- The parts of the key paths in the type are texts, and the records that it refers to are
there. -/
structure ResolvedType (records : RecordMap) (type : Ty) : Prop where
  parts : ∀ part ∈ type.keyParts, IsText part
  found : ∀ key ∈ type.recordKeys, ∃ record, records.lookup key = some record ∧ TextNamed record

namespace ResolvedType

variable {records : RecordMap} {item keyType : Ty} {path : List Json}

theorem item_of_keyed (h : ResolvedType records (.keyedArray item path keyType)) :
    ResolvedType records item where
  parts part hpart := h.parts part (List.mem_append_left _ (List.mem_append_left _ hpart))
  found key hkey := h.found key (List.mem_append_left _ hkey)

theorem key_of_keyed (h : ResolvedType records (.keyedArray item path keyType)) :
    ResolvedType records keyType where
  parts part hpart := h.parts part (List.mem_append_right _ hpart)
  found key hkey := h.found key (List.mem_append_right _ hkey)

end ResolvedType

theorem hashable_iff {type : Ty} :
    type.hashable = true ↔ ∀ part ∈ type.keyParts, part.hashable = true := by
  induction type with
  | primitive p => simp [Ty.hashable, Ty.keyParts]
  | record key => simp [Ty.hashable, Ty.keyParts]
  | array item ih => exact ih
  | optional other ih => exact ih
  | keyedArray item path keyType ihItem ihKey =>
    rw [Ty.hashable, Ty.keyParts, Bool.and_eq_true, Bool.and_eq_true, ihItem, ihKey,
      List.all_eq_true, List.forall_mem_append, List.forall_mem_append]

theorem hashable_of_isText {type : Ty} (h : ∀ part ∈ type.keyParts, IsText part) :
    type.hashable = true := by
  refine hashable_iff.2 fun part hpart => ?_
  obtain ⟨text, rfl⟩ := h part hpart
  rfl

/-! ## One kind of type at a time -/

section Spell

variable {scope : Scope} {flavor : Flavor} {allFrozen : Option Bool} {text : String}

theorem record_eq_ok_iff {key : String} {record : Record} :
    scope.record key = .ok record ↔ scope.records.lookup key = some record := by
  rw [Scope.record, RecordMap.find]
  cases hlookup : scope.records.lookup key with
  | none => simp [Json.hashable, ofSchema]
  | some found => simp [Json.hashable, ofSchema]

theorem lift_eq {α : Type} (result : Except Error α) : (lift result : Except Error α) = result := by
  cases result <;> rfl

theorem spell_primitive (p : Schema.Primitive) :
    spell scope flavor allFrozen (.primitive p) = .ok (primitiveType p) := rfl

theorem spell_record_eq_ok {key : String} :
    spell scope flavor allFrozen (.record key) = .ok text ↔
      ∃ record name, scope.records.lookup key = some record ∧ scope.className record = .ok name ∧
        recordType record name flavor allFrozen = .ok text := by
  change lift (scope.record key) >>= (fun record => scope.className record >>= fun name =>
    lift (recordType record name flavor allFrozen)) = .ok text ↔ _
  simp only [bind_eq_ok_iff, lift_eq, record_eq_ok_iff, exists_and_left]

theorem spell_optional_eq_ok {other : Ty} :
    spell scope flavor allFrozen (.optional other) = .ok text ↔
      ∃ spelt, spell scope flavor allFrozen other = .ok spelt ∧ spelt ++ "?" = text := by
  change (spell scope flavor allFrozen other >>= fun spelt => pure (spelt ++ "?")) = .ok text ↔ _
  simp only [bind_eq_ok_iff, pure, Except.pure, Except.ok.injEq]

theorem spell_array_eq_ok {item : Ty} :
    spell scope flavor allFrozen (.array item) = .ok text ↔
      ∃ itemFlavor shape spelt, arrayShape flavor = .ok (itemFlavor, shape) ∧
        spell scope itemFlavor allFrozen item = .ok spelt ∧
        shape ++ "<" ++ spelt ++ ">" = text := by
  change (lift (arrayShape flavor) >>= fun shape =>
    spell scope shape.1 allFrozen item >>= fun spelt =>
    pure (shape.2 ++ "<" ++ spelt ++ ">")) = .ok text ↔ _
  simp only [bind_eq_ok_iff, lift_eq, pure, Except.pure, Except.ok.injEq, Prod.exists,
    exists_and_left]

/-- The spelling of an array with keys: only a frozen one shows the type of its keys. -/
theorem spell_keyedArray_eq_ok {item keyType : Ty} {path : List Json} :
    spell scope flavor allFrozen (.keyedArray item path keyType) = .ok text ↔
      ∃ itemFlavor shape spelt, arrayShape flavor = .ok (itemFlavor, shape) ∧
        spell scope itemFlavor allFrozen item = .ok spelt ∧
        if flavor = .frozen then
          ∃ key, spell scope .frozen none keyType = .ok key ∧
            "_soia.KeyedIterable<" ++ spelt ++ ", " ++ keyArgument keyType key ++ ">" = text
        else shape ++ "<" ++ spelt ++ ">" = text := by
  change (lift (arrayShape flavor) >>= fun shape =>
    spell scope shape.1 allFrozen item >>= fun spelt =>
    if flavor = .frozen then spell scope .frozen none keyType >>= fun key =>
      pure ("_soia.KeyedIterable<" ++ spelt ++ ", " ++ keyArgument keyType key ++ ">")
    else pure (shape.2 ++ "<" ++ spelt ++ ">")) = .ok text ↔ _
  simp only [bind_eq_ok_iff, lift_eq, Prod.exists, exists_and_left]
  split
  · simp only [bind_eq_ok_iff, pure, Except.pure, Except.ok.injEq]
  · simp only [pure, Except.pure, Except.ok.injEq]

end Spell

/-! ## Types that have a spelling -/

/-- The class name of a record whose names are texts. -/
theorem className_eq {record : Record} {texts : List String} {path : String}
    (htexts : record.ancestors = texts.map .str) (hpath : record.modulePath = .str path)
    (scope : Scope) :
    scope.className record = .ok (if (Json.str path).same scope.origin then "_".intercalate texts
      else moduleAlias path ++ "." ++ "_".intercalate texts) := by
  rw [Scope.className, htexts, joinTexts_map, qualifier, hpath]
  split
  · rfl
  · rfl

theorem exists_className {record : Record} (h : TextNamed record) (scope : Scope) :
    ∃ name, scope.className record = .ok name := by
  obtain ⟨texts, htexts, -⟩ := @exists_texts record.ancestors (fun _ => True) fun v hv =>
    (h.ancestors v hv).imp fun _ hv => ⟨hv, trivial⟩
  obtain ⟨path, hpath⟩ := h.path
  exact ⟨_, className_eq htexts hpath scope⟩

/-- The class of a record in a flavour is named after its frozen class. -/
theorem exists_recordType {flavor : Flavor} (hflavor : flavor ≠ .kind) (record : Record)
    (name : String) (allFrozen : Option Bool) :
    ∃ suffix ∈ ["", "_orMutable", "_mutable"],
      recordType record name flavor allFrozen = .ok (name ++ suffix) := by
  unfold recordType
  split
  · split
    · exact ⟨"", by simp, by simp⟩
    · next hfrozen =>
      cases flavor with
      | kind => exact absurd rfl hflavor
      | frozen => exact absurd rfl hfrozen
      | initializer => exact ⟨"_orMutable", by simp, rfl⟩
      | maybeMutable => exact ⟨"_orMutable", by simp, rfl⟩
      | mutable => exact ⟨"_mutable", by simp, rfl⟩
  · exact ⟨"", by simp, by simp⟩

theorem exists_arrayShape {flavor : Flavor} (hflavor : flavor ≠ .kind) :
    ∃ itemFlavor, ∃ shape ∈ ["_core.Iterable", "_core.List"],
      arrayShape flavor = .ok (itemFlavor, shape) ∧ itemFlavor ≠ .kind := by
  cases flavor with
  | kind => exact absurd rfl hflavor
  | frozen => exact ⟨_, _, by decide, rfl, by decide⟩
  | initializer => exact ⟨_, _, by decide, rfl, by decide⟩
  | maybeMutable => exact ⟨_, _, by decide, rfl, by decide⟩
  | mutable => exact ⟨_, _, by decide, rfl, by decide⟩

theorem exists_spell {scope : Scope} {type : Ty} (h : ResolvedType scope.records type)
    {flavor : Flavor} (hflavor : flavor ≠ .kind) (allFrozen : Option Bool) :
    ∃ text, spell scope flavor allFrozen type = .ok text := by
  induction type generalizing flavor allFrozen with
  | primitive p => exact ⟨_, spell_primitive p⟩
  | record key =>
    obtain ⟨record, hrecord, hnamed⟩ := h.found key List.mem_cons_self
    obtain ⟨name, hname⟩ := exists_className hnamed scope
    obtain ⟨suffix, -, htext⟩ := exists_recordType hflavor record name allFrozen
    exact ⟨name ++ suffix, spell_record_eq_ok.2 ⟨record, name, hrecord, hname, htext⟩⟩
  | optional other ih =>
    obtain ⟨spelt, hspelt⟩ := ih ⟨h.parts, h.found⟩ hflavor allFrozen
    exact ⟨_, spell_optional_eq_ok.2 ⟨spelt, hspelt, rfl⟩⟩
  | array item ih =>
    obtain ⟨itemFlavor, shape, -, hshape, hitem⟩ := exists_arrayShape hflavor
    obtain ⟨spelt, hspelt⟩ := ih ⟨h.parts, h.found⟩ hitem allFrozen
    exact ⟨_, spell_array_eq_ok.2 ⟨itemFlavor, shape, spelt, hshape, hspelt, rfl⟩⟩
  | keyedArray item path keyType ihItem ihKey =>
    obtain ⟨itemFlavor, shape, -, hshape, hitem⟩ := exists_arrayShape hflavor
    obtain ⟨spelt, hspelt⟩ := ihItem h.item_of_keyed hitem allFrozen
    obtain ⟨key, hkey⟩ := ihKey h.key_of_keyed (show Flavor.frozen ≠ .kind by decide) none
    have hspell :=
      fun text htext => (@spell_keyedArray_eq_ok scope flavor allFrozen text item keyType
      path).2 ⟨itemFlavor, shape, spelt, hshape, hspelt, htext⟩
    by_cases hfrozen : flavor = .frozen
    · exact ⟨_, hspell _ ((if_pos hfrozen).mpr ⟨key, hkey, rfl⟩)⟩
    · exact ⟨_, hspell _ ((if_neg hfrozen).mpr rfl)⟩

/-- The Dart type of a resolved type is its spelling. -/
theorem ResolvedType.dartType_eq {scope : Scope} {type : Ty} (h : ResolvedType scope.records type)
    (flavor : Flavor) (allFrozen : Option Bool) :
    dartType scope type flavor allFrozen = spell scope flavor allFrozen type :=
  if_pos (hashable_of_isText h.parts)

end DartRecords.Dart
