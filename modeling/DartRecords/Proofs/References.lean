import DartRecords.Proofs.Imports
import DartRecords.Proofs.Lookups

/-!
# References of accepted documents

A document is accepted if every record that the types of its modules refer to is there.  Generation
looks up more than that: the factory for a variant that wraps a struct has a parameter for each
field of the struct, which may be declared in a module that the document leaves out.  So the records
that are found to be missing from an accepted document are those that such a parameter names
(`accepted_document_misses_dangling_keys`).
-/

namespace DartRecords.Schema

/-! ## What reading has checked -/

theorem forM_eq_ok {ε α : Type} {items : List α} {step : α → Except ε PUnit}
    (h : items.forM step = .ok ()) : ∀ item ∈ items, step item = .ok () := by
  induction items with
  | nil => simp
  | cons first rest ih =>
    change step first >>= (fun _ => rest.forM step) = .ok () at h
    obtain ⟨_, hfirst, hrest⟩ := bind_eq_ok h
    exact List.forall_mem_cons.2 ⟨hfirst, ih hrest⟩

theorem find_eq_ok {records : RecordMap} {key : String} {r : Record}
    (h : records.find (.str key) = .ok r) : records.lookup key = some r := by
  rw [RecordMap.find, if_neg (by simp [Json.hashable])] at h
  cases hlookup : records.lookup key with
  | none => simp [hlookup] at h
  | some found => simpa [hlookup] using h

/-- The records that the types of an accepted document refer to are there. -/
theorem found_of_readDocument {json : Json} {document : Document}
    (h : readDocument json = .ok document) :
    ∀ module ∈ document.modules, ∀ t ∈ module.types, ∀ key ∈ t.recordKeys,
      (document.records.lookup key).isSome = true := by
  unfold readDocument at h
  split at h
  · obtain ⟨records, -, h⟩ := bind_eq_ok h
    obtain ⟨nodes, -, h⟩ := bind_eq_ok h
    obtain ⟨modules, -, h⟩ := bind_eq_ok h
    obtain ⟨_, hcheck, h⟩ := bind_eq_ok h
    cases h
    intro module hmodule t ht key hkey
    have hfind := forM_eq_ok (forM_eq_ok (forM_eq_ok hcheck module hmodule) t ht) key hkey
    obtain ⟨r, hr, -⟩ := bind_eq_ok hfind
    rw [find_eq_ok hr]
    rfl
  · cases h

end DartRecords.Schema

namespace DartRecords.Dart

open Schema (Document Field Module Record RecordMap Ty)

/-! ## Keys that factories look up -/

/-- The keys in the types of the parameters that the fields of a struct become. -/
def parameterKeys (struct : Record) : List String :=
  struct.fields.flatMap fun f => f.type.toList.flatMap (spelledKeys .initializer)

/-- The keys in the types of the parameters of the factories of a module's enums. -/
def factoryKeys (records : RecordMap) (module : Module) : List String :=
  (module.records.filter (!·.isStruct)).flatMap fun enum =>
    enum.fields.flatMap fun variant => (wrappedStruct? records variant).toList.flatMap parameterKeys

/-- The keys of missing records that the factories of a document ask for. -/
def danglingKeys (document : Document) : List String :=
  (document.modules.flatMap (factoryKeys document.records)).filter fun key =>
    (document.records.lookup key).isNone

theorem mem_factoryKeys {scope : Scope} {module : Module} {key : String} :
    key ∈ factoryKeys scope.records module ↔
      ∃ enum ∈ module.records, enum.isStruct = false ∧ ∃ variant ∈ enum.fields, ∃ struct,
        (∃ structKey, variant.type = some (.record structKey) ∧
          scope.record structKey = .ok struct ∧
          struct.isStruct = true) ∧
        ∃ parameter ∈ struct.fields, ∃ t, parameter.type = some t ∧
          key ∈ spelledKeys .initializer t := by
  simp only [factoryKeys, parameterKeys, List.mem_flatMap, List.mem_filter, Bool.not_eq_true',
    Option.mem_toList, wrappedStruct?_eq_some_iff, and_assoc]

/-! ## What is missing is asked for by a factory -/

/-- Where the records in the types of a module are there, only its factories find others missing. -/
theorem allowsModule_of_found {scope : Scope} {module : Module}
    (hfound : ∀ t ∈ module.types, ∀ key ∈ t.recordKeys,
      (scope.records.lookup key).isSome = true) :
    (Questions.missing (factoryKeys scope.records module)).AllowsModule scope module := by
  refine allowsModule_of_keys (fun _ => trivial) (fun _ _ => trivial)
    (fun t ht key hkey => ⟨fun _ _ => trivial, fun hmissing => ?_⟩) ?_
  · have hthere := hfound t ht key hkey
    rw [hmissing] at hthere
    cases hthere
  · intro enum henum hkind variant hvariant structKey hkey struct hstruct hisStruct parameter
      hparameter t ht key hmem
    exact ⟨fun _ _ => trivial, fun _ => mem_factoryKeys.2 ⟨enum, henum, hkind, variant, hvariant,
      struct, ⟨structKey, hkey, hstruct, hisStruct⟩, parameter, hparameter, t, ht, hmem⟩⟩

theorem MissesOnly.mono {scope : Scope} {keys more : List String} {α : Type} {step : Gen α}
    (h : MissesOnly scope keys step) (hkeys : keys ⊆ more) : MissesOnly scope more step := by
  intro cause hraises
  obtain ⟨key, hkey, hmissing⟩ := h cause hraises
  exact ⟨key, hkeys hkey, hmissing⟩

/-- The files of a document find only records missing that its factories ask for. -/
theorem missesOnly_files [Limits] {document : Document}
    (hfound : ∀ module ∈ document.modules, ∀ t ∈ module.types, ∀ key ∈ t.recordKeys,
      (document.records.lookup key).isSome = true)
    (config : Config) (workingDirectory : List String) :
    MissesOnly ⟨document.records, .null⟩ (document.modules.flatMap (factoryKeys document.records))
      ((Backend.dart workingDirectory).files config document) := by
  refine MissesOnly.mapM fun module hmodule => ?_
  refine (missesOnly_generate (fun path config workingDirectory => ?_) .null config
    workingDirectory).mono
    (fun key hkey => List.mem_flatMap.2 ⟨module, hmodule, hkey⟩)
  exact missesOnly_moduleCode (allowsModule_of_found (hfound module hmodule)) config
    workingDirectory path

/-! ## What a factory asks for is needed -/

section Needed

variable {scope : Scope}

/-- A type that is spelt names records that are there. -/
theorem found_of_spell {flavor : Flavor} {allFrozen : Option Bool} {type : Ty} {text : String}
    (h : spell scope flavor allFrozen type = .ok text) :
    ∀ key ∈ spelledKeys flavor type, (scope.records.lookup key).isSome = true := by
  induction type generalizing flavor allFrozen text with
  | primitive p => simp [spelledKeys]
  | record key =>
    obtain ⟨record, name, hlookup, -⟩ := spell_record_eq_ok.1 h
    intro key' hkey'
    cases List.mem_singleton.1 hkey'
    rw [hlookup]
    rfl
  | optional other ih =>
    obtain ⟨spelt, hspelt, -⟩ := spell_optional_eq_ok.1 h
    exact ih hspelt
  | array item ih =>
    obtain ⟨itemFlavor, shape, spelt, hshape, hspelt, -⟩ := spell_array_eq_ok.1 h
    rw [spelledKeys, hshape]
    exact ih hspelt
  | keyedArray item path keyType ihItem ihKey =>
    obtain ⟨itemFlavor, shape, spelt, hshape, hspelt, h⟩ := spell_keyedArray_eq_ok.1 h
    rw [spelledKeys, hshape]
    refine List.forall_mem_append.2 ⟨ihItem hspelt, ?_⟩
    split
    · next hfrozen =>
      rw [if_pos hfrozen] at h
      obtain ⟨key, hkey, -⟩ := h
      exact ihKey hkey
    · simp

theorem Notes.spell_eq_ok {type : Ty} {flavor : Flavor} {allFrozen : Option Bool} {spelt : String}
    {named : FreeMonoid Record}
    (h : Notes ((Speller.noting scope).dartType type flavor allFrozen) spelt named) :
    spell scope flavor allFrozen type = .ok spelt := by
  change Notes (if type.hashable then (noteSpelling scope flavor allFrozen type).lift
    else throw (.mismatch type.unhashable)) spelt named at h
  split at h
  · have hrun := h.of_noted
    rw [names_noteSpelling] at hrun
    cases hspelt : spell scope flavor allFrozen type with
    | error e =>
      rw [hspelt] at hrun
      cases hrun
    | ok spelt' =>
      rw [hspelt] at hrun
      cases hrun
      rfl
  · obtain ⟨s, s', h⟩ := h
    cases h

theorem Notes.of_mapM {α β : Type} {step : α → Noting β} {items : List α} {results : List β}
    {named : FreeMonoid Record} (h : Notes (items.mapM step) results named) {item : α}
    (hitem : item ∈ items) : ∃ result others, Notes (step item) result others := by
  induction items generalizing results named with
  | nil => cases hitem
  | cons first rest ih =>
    rw [List.mapM_cons] at h
    obtain ⟨result, others, _, hfirst, h, -⟩ := h.of_bind
    rcases List.mem_cons.1 hitem with rfl | hitem
    · exact ⟨result, others, hfirst⟩
    · obtain ⟨_, _, _, hrest, -, -⟩ := h.of_bind
      exact ih hrest hitem

theorem found_of_createFactory {struct : Record} {name option base : String} {code : List String}
    {named : FreeMonoid Record}
    (h : Notes (Enum.createFactory (Speller.noting scope) name option base struct) code named)
    {parameter : Field} (hparameter : parameter ∈ struct.fields) {t : Ty}
    (ht : parameter.type = some t) :
    ∀ key ∈ spelledKeys .initializer t, (scope.records.lookup key).isSome = true := by
  obtain ⟨_, _, _, -, h, -⟩ := h.of_bind
  obtain ⟨_, _, _, hparameters, -, -⟩ := h.of_bind
  obtain ⟨_, _, h⟩ := hparameters.of_mapM hparameter
  obtain ⟨t', _, _, hresolved, h, -⟩ := h.of_bind
  obtain ⟨spelt, _, _, hspelt, -, -⟩ := h.of_bind
  cases ht.symm.trans hresolved.of_resolved
  exact found_of_spell hspelt.spell_eq_ok

theorem found_of_factories {variant : Field} {name : String} {code : List String}
    {named : FreeMonoid Record}
    (h : Notes (Enum.factories (Speller.noting scope) name variant) code named) {structKey : String}
    (hvariant : variant.type = some (.record structKey)) {struct : Record}
    (hrecord : scope.record structKey = .ok struct) (hstruct : struct.isStruct = true)
    {parameter : Field} (hparameter : parameter ∈ struct.fields) {t : Ty}
    (ht : parameter.type = some t) :
    ∀ key ∈ spelledKeys .initializer t, (scope.records.lookup key).isSome = true := by
  obtain ⟨_, _, _, -, h, -⟩ := h.of_bind
  obtain ⟨_, _, _, -, h, -⟩ := h.of_bind
  obtain ⟨type, _, _, hresolved, h, -⟩ := h.of_bind
  obtain ⟨_, _, _, -, h, -⟩ := h.of_bind
  obtain ⟨_, _, _, -, h, -⟩ := h.of_bind
  cases hvariant.symm.trans hresolved.of_resolved
  obtain ⟨record, _, _, hfound, h, -⟩ := h.of_bind
  have hfound : scope.record structKey = .ok record := hfound.of_lift
  cases hrecord.symm.trans hfound
  rw [if_pos hstruct] at h
  obtain ⟨_, _, _, hcreate, -, -⟩ := h.of_bind
  exact found_of_createFactory hcreate hparameter ht

/-- Where there is code for a module, the records that its factories ask for are there. -/
theorem found_of_moduleCode {module : Module} {config : Config} {workingDirectory : List String}
    {path : String} {code : List String} {named : FreeMonoid Record}
    (h : Notes (moduleCode (Speller.noting scope) config workingDirectory path module) code named) :
    ∀ key ∈ factoryKeys scope.records module, (scope.records.lookup key).isSome = true := by
  intro key hkey
  obtain ⟨enum, henum, hkind, variant, hvariant, struct,
    ⟨structKey, htype, hrecord, hstruct⟩, parameter, hparameter, t, ht, hkey⟩ :=
      mem_factoryKeys.1 hkey
  obtain ⟨_, _, _, -, h, -⟩ := h.of_bind
  obtain ⟨_, _, _, hdeclarations, -, -⟩ := h.of_bind
  obtain ⟨_, _, _, hrecords, -, -⟩ := hdeclarations.of_bind
  obtain ⟨_, _, h⟩ := hrecords.of_mapM henum
  rw [recordCode, if_neg (by simp [hkind])] at h
  obtain ⟨_, _, _, hclasses, -, -⟩ := h.of_bind
  obtain ⟨name, _, _, -, h, -⟩ := hclasses.of_bind
  obtain ⟨_, _, _, hsealed, -, -⟩ := h.of_bind
  obtain ⟨_, _, _, -, h, -⟩ := hsealed.of_bind
  obtain ⟨_, _, _, hfactories, -, -⟩ := h.of_bind
  have hvalue : variant ∈ enum.fields.filter (!Enum.isConstant ·) :=
    List.mem_filter.2 ⟨hvariant, by simp [Enum.isConstant, htype]⟩
  obtain ⟨_, _, h⟩ := hfactories.of_mapM hvalue
  exact found_of_factories h htype hrecord hstruct hparameter ht key hkey

end Needed

/-- Where there is a file for a module, the records that its factories ask for are there. -/
theorem found_of_generate [Limits] {config : Config} {workingDirectory : List String}
    {records : RecordMap} {module : Module} {file : SourceFile}
    (h : Returns (SourceFile.generate config workingDirectory records module) file) :
    ∀ key ∈ factoryKeys records module, (records.lookup key).isSome = true := by
  obtain ⟨s, s', h⟩ := h
  obtain ⟨-, path, fragments, between, after, -, -, hspellings, hfragments, -⟩ :=
    SourceFile.of_generate h
  have hstart : Alike ⟨records, .str path⟩ between between := by
    refine ⟨rfl, fun key spelt hlookup => ?_⟩
    rw [hspellings] at hlookup
    cases hlookup
  have hmatch :=
    (spells_noting ⟨records, .str path⟩ _).moduleCode (allowsModule_all _ module) config
    workingDirectory path between between hstart
  rw [hfragments] at hmatch
  generalize hout : (moduleCode (Speller.noting ⟨records, .str path⟩) config workingDirectory path
    module).run.run.run between = outcome at hmatch
  cases hmatch with
  | @ok _ _ _ _ named _ => exact found_of_moduleCode ⟨between, _, hout⟩

/-! ## Accepted documents -/

/-- If every record of an accepted document is declared in one of its modules, none is missing. -/
theorem danglingKeys_eq_nil {document : Document}
    (hfound : ∀ module ∈ document.modules, ∀ t ∈ module.types, ∀ key ∈ t.recordKeys,
      (document.records.lookup key).isSome = true)
    (hdeclared : ∀ key r, document.records.lookup key = some r →
      ∃ module ∈ document.modules, r ∈ module.records) :
    danglingKeys document = [] := by
  refine List.filter_eq_nil_iff.2 fun key hkey => ?_
  obtain ⟨module, hmodule, hkey⟩ := List.mem_flatMap.1 hkey
  obtain ⟨enum, henum, -, variant, hvariant, struct,
    ⟨structKey, htype, hrecord, hstruct⟩, parameter, hparameter, t, ht, hkey⟩ :=
      (@mem_factoryKeys ⟨document.records, .null⟩ _ _).1 hkey
  obtain ⟨home, hhome, hstruct⟩ := hdeclared structKey struct (record_eq_ok_iff.1 hrecord)
  have hthere := hfound home hhome t (mem_types_of_field hstruct hparameter ht) key
    (mem_recordKeys_of_mem_spelledKeys hkey)
  simp [Option.isSome_iff_ne_none.1 hthere]

/-- The records that generation finds missing from an accepted document are those that a factory
asks for, and it cannot do without them; none is missing where every record is declared in a
module. -/
theorem accepted_document_misses_dangling_keys [Limits] {json : Json} {document : Document}
    (hread : Schema.readDocument json = .ok document) (config : Config)
    (workingDirectory : List String) (s : Session) :
    let outcome := (((Backend.dart workingDirectory).files config document).run.run s).1
    (∀ cause, outcome = .error (.schema cause) →
      ∃ key ∈ danglingKeys document, cause = .unknownRecord (.str key)) ∧
    (danglingKeys document ≠ [] → ∀ files, outcome ≠ .ok files) ∧
    ((∀ key r, document.records.lookup key = some r →
      ∃ module ∈ document.modules, r ∈ module.records) →
      danglingKeys document = []) := by
  intro outcome
  have hfound := Schema.found_of_readDocument hread
  refine ⟨fun cause hcause => ?_, fun hdangling files hfiles => ?_, danglingKeys_eq_nil hfound⟩
  · obtain ⟨key, hkey, hmissing, hcause⟩ := missesOnly_files hfound config workingDirectory cause
      ⟨s, _, Prod.ext hcause rfl⟩
    exact ⟨key, List.mem_filter.2 ⟨hkey, Option.isNone_iff_eq_none.2 hmissing⟩, hcause⟩
  · obtain ⟨key, hkey⟩ := List.exists_mem_of_ne_nil _ hdangling
    obtain ⟨hkey, hmissing⟩ := List.mem_filter.1 hkey
    obtain ⟨module, hmodule, hkey⟩ := List.mem_flatMap.1 hkey
    have hreturns : Returns ((Backend.dart workingDirectory).files config document) files :=
      ⟨s, _, Prod.ext hfiles rfl⟩
    obtain ⟨file, -, hfile⟩ := exists_of_forall₂_left hreturns.of_mapM hmodule
    have hthere := found_of_generate hfile key hkey
    simp [Option.isSome_iff_ne_none.1 hthere] at hmissing

/-- A record as documents have it, with at most one field. -/
def recordNode (kind name path : String) (field : Option (String × String)) : Json :=
  .obj [("record_type", .str kind), ("name", .str name), ("module_path", .str path),
    ("fields", .arr <| field.toList.map fun (fieldName, key) =>
      .obj [("name", .str fieldName), ("number", .int (if kind = "enum" then 1 else 0)),
        ("type", .obj [("kind", .str "record"), ("key", .str key)])])]

/-- A document with the module of trees alone, and some more records. -/
def treeJson (others : List (String × Json)) : Json :=
  .obj [
    ("records", .obj <| others ++ [
      ("branch.soia:Branch",
        recordNode "struct" "Branch" "branch.soia" (some ("leaf", "leaf.soia:Leaf"))),
      ("tree.soia:Tree",
        recordNode "enum" "Tree" "tree.soia" (some ("branch", "branch.soia:Branch")))]),
    ("modules",
      .arr [.obj [("path", .str "tree.soia"), ("records", .arr [.str "tree.soia:Tree"])]])]

/-- The document with the records of trees, or with some of them. -/
def treeDocument (records : RecordMap) : Document := { modules := [treeModule []], records }

section

attribute [local instance] Limits.usual

theorem trees_miss_nothing :
    Schema.readDocument
      (treeJson [("leaf.soia:Leaf", recordNode "struct" "Leaf" "leaf.soia" none)]) =
      .ok (treeDocument treeRecords) ∧
    danglingKeys (treeDocument treeRecords) = [] ∧
    ∀ config workingDirectory s cause,
      (((Backend.dart workingDirectory).files config (treeDocument treeRecords)).run.run s).1 ≠
        .error (.schema cause) := by
  have hread : Schema.readDocument
      (treeJson [("leaf.soia:Leaf", recordNode "struct" "Leaf" "leaf.soia" none)]) =
        .ok (treeDocument treeRecords) := by rfl
  have hnone : danglingKeys (treeDocument treeRecords) = [] := by decide
  refine ⟨hread, hnone, fun config workingDirectory s cause hcause => ?_⟩
  obtain ⟨key, hkey, -⟩ :=
    (accepted_document_misses_dangling_keys hread config workingDirectory s).1 cause hcause
  rw [hnone] at hkey
  cases hkey

/-- The leaves of the branches of trees may be missing from a document that is accepted. -/
theorem missing_leaf_of_accepted_document :
    Schema.readDocument (treeJson []) = .ok (treeDocument treeRecords.tail) ∧
    (((Backend.dart []).files {} (treeDocument treeRecords.tail)).run.run {}).1 =
      .error (.schema (.unknownRecord (.str "leaf.soia:Leaf"))) := by
  constructor <;> rfl

end

end DartRecords.Dart
