import DartRecords.Proofs.ModulePaths
import DartRecords.Proofs.Spellings

/-!
# Well-formed documents

A document is well-formed if its names are words, its paths are module paths, the fields of its
structs have types, and every record that a type refers to is there.  Whether a document is
well-formed can be evaluated.

All that is spelt for such a document is there and keeps to its line: class names and types are
solid (`yields_className`, `yields_dartType`), and so are the parts of which expressions are made.
  `Yields` says that a computation has a result with a property.
-/

namespace DartRecords.Dart

open Layout (Flat Inline Solid Trailing)
open Naming (IsWord)
open Schema (Constant Document Field Method Module Record RecordMap Ty)

/-! ## Well-formedness -/

/-- The value is a text that is a word. -/
def IsName : Json → Prop
  | .str s => IsWord s
  | _ => False

/-- The value is a text that is the path of a module. -/
def IsPath : Json → Prop
  | .str s => IsModulePath s
  | _ => False

/-- The key paths in a type are made of words, and the records it refers to are there. -/
structure WellFormedType (records : RecordMap) (type : Ty) : Prop where
  names : ∀ part ∈ type.keyParts, IsName part
  found : ∀ key ∈ type.recordKeys, (records.lookup key).isSome = true

structure WellFormedField (records : RecordMap) (f : Field) : Prop where
  name : IsName f.name
  type : ∀ t ∈ f.type, WellFormedType records t

structure WellFormedRecord (records : RecordMap) (r : Record) : Prop where
  path : IsPath r.modulePath
  ancestors_ne_nil : r.ancestors ≠ []
  ancestors : ∀ name ∈ r.ancestors, IsName name
  fields : ∀ f ∈ r.fields, WellFormedField records f
  typed : r.isStruct = true → ∀ f ∈ r.fields, f.type.isSome = true

structure WellFormedMethod (records : RecordMap) (method : Method) : Prop where
  name : IsName method.name
  request : WellFormedType records method.requestType
  response : WellFormedType records method.responseType

/-- The value of a constant may be any. -/
structure WellFormedConstant (records : RecordMap) (constant : Constant) : Prop where
  name : IsName constant.name
  type : WellFormedType records constant.type

structure WellFormedModule (records : RecordMap) (module : Module) : Prop where
  path : IsPath module.path
  imports : ∀ entry ∈ module.imports, IsModulePath entry.1
  record : ∀ r ∈ module.records, WellFormedRecord records r
  method : ∀ method ∈ module.methods, WellFormedMethod records method
  constant : ∀ constant ∈ module.constants, WellFormedConstant records constant

structure WellFormed (document : Document) : Prop where
  record : ∀ entry ∈ document.records, WellFormedRecord document.records entry.2
  module : ∀ module ∈ document.modules, WellFormedModule document.records module

section Decidable

instance : DecidablePred IsName
  | .str s => inferInstanceAs (Decidable (IsWord s))
  | .null | .bool _ | .int _ | .real _ | .arr _ | .obj _ => inferInstanceAs (Decidable False)

instance : DecidablePred IsPath
  | .str s => inferInstanceAs (Decidable (IsModulePath s))
  | .null | .bool _ | .int _ | .real _ | .arr _ | .obj _ => inferInstanceAs (Decidable False)

variable (records : RecordMap)

instance (type : Ty) : Decidable (WellFormedType records type) :=
  decidable_of_iff ((∀ part ∈ type.keyParts, IsName part) ∧
      ∀ key ∈ type.recordKeys, (records.lookup key).isSome = true)
    ⟨fun h => ⟨h.1, h.2⟩, fun h => ⟨h.1, h.2⟩⟩

instance (f : Field) : Decidable (WellFormedField records f) :=
  decidable_of_iff (IsName f.name ∧ ∀ t ∈ f.type, WellFormedType records t)
    ⟨fun h => ⟨h.1, h.2⟩, fun h => ⟨h.1, h.2⟩⟩

instance (r : Record) : Decidable (WellFormedRecord records r) :=
  decidable_of_iff (IsPath r.modulePath ∧ r.ancestors ≠ [] ∧ (∀ name ∈ r.ancestors, IsName name) ∧
      (∀ f ∈ r.fields, WellFormedField records f) ∧
      (r.isStruct = true → ∀ f ∈ r.fields, f.type.isSome = true))
    ⟨fun ⟨h₁, h₂, h₃, h₄, h₅⟩ => ⟨h₁, h₂, h₃, h₄, h₅⟩, fun h => ⟨h.1, h.2, h.3, h.4, h.5⟩⟩

instance (method : Method) : Decidable (WellFormedMethod records method) :=
  decidable_of_iff (IsName method.name ∧ WellFormedType records method.requestType ∧
      WellFormedType records method.responseType)
    ⟨fun ⟨h₁, h₂, h₃⟩ => ⟨h₁, h₂, h₃⟩, fun h => ⟨h.1, h.2, h.3⟩⟩

instance (constant : Constant) : Decidable (WellFormedConstant records constant) :=
  decidable_of_iff (IsName constant.name ∧ WellFormedType records constant.type)
    ⟨fun h => ⟨h.1, h.2⟩, fun h => ⟨h.1, h.2⟩⟩

instance (module : Module) : Decidable (WellFormedModule records module) :=
  decidable_of_iff (IsPath module.path ∧ (∀ entry ∈ module.imports, IsModulePath entry.1) ∧
      (∀ r ∈ module.records, WellFormedRecord records r) ∧
      (∀ method ∈ module.methods, WellFormedMethod records method) ∧
      ∀ constant ∈ module.constants, WellFormedConstant records constant)
    ⟨fun ⟨h₁, h₂, h₃, h₄, h₅⟩ => ⟨h₁, h₂, h₃, h₄, h₅⟩, fun h => ⟨h.1, h.2, h.3, h.4, h.5⟩⟩

instance (document : Document) : Decidable (WellFormed document) :=
  decidable_of_iff ((∀ entry ∈ document.records, WellFormedRecord document.records entry.2) ∧
      ∀ module ∈ document.modules, WellFormedModule document.records module)
    ⟨fun h => ⟨h.1, h.2⟩, fun h => ⟨h.1, h.2⟩⟩

end Decidable

theorem IsName.exists_str {v : Json} (h : IsName v) : ∃ s, v = .str s ∧ IsWord s := by
  cases v <;> first | exact ⟨_, rfl, h⟩ | cases h

theorem IsName.isText {v : Json} (h : IsName v) : IsText v := by
  obtain ⟨s, hv, -⟩ := h.exists_str
  exact ⟨s, hv⟩

theorem IsPath.exists_str {v : Json} (h : IsPath v) : ∃ s, v = .str s ∧ IsModulePath s := by
  cases v <;> first | exact ⟨_, rfl, h⟩ | cases h

/-! ## Computations that have a result -/

/-- The computation has a result, and the result has the property. -/
def Yields {ε α : Type} (result : Except ε α) (P : α → Prop) : Prop := ∃ a, result = .ok a ∧ P a

namespace Yields

variable {ε α β : Type} {P : α → Prop} {Q : β → Prop}

theorem pure {a : α} (h : P a) : Yields (Pure.pure a : Except ε α) P := ⟨a, rfl, h⟩

theorem ok {a : α} (h : P a) : Yields (.ok a : Except ε α) P := ⟨a, rfl, h⟩

theorem bind {result : Except ε α} {next : α → Except ε β} (h : Yields result P)
    (hnext : ∀ a, P a → Yields (next a) Q) : Yields (result >>= next) Q := by
  obtain ⟨a, rfl, ha⟩ := h
  exact hnext a ha

theorem imp {P' : α → Prop} {result : Except ε α} (h : Yields result P) (himp : ∀ a, P a → P' a) :
    Yields result P' := by
  obtain ⟨a, hresult, ha⟩ := h
  exact ⟨a, hresult, himp a ha⟩

theorem ofValue {result : Except Mismatch α} (h : Yields result P) : Yields (ofValue result) P := by
  obtain ⟨a, rfl, ha⟩ := h
  exact ⟨a, rfl, ha⟩

theorem lift {result : Except Error α} (h : Yields result P) :
    Yields (Dart.lift result : Except Error α) P := by
  obtain ⟨a, rfl, ha⟩ := h
  exact ⟨a, rfl, ha⟩

end Yields

theorem forall₂_of_yields {ε α β : Type} {items : List α} {step : α → Except ε β}
    {R : α → β → Prop} (h : ∀ item ∈ items, Yields (step item) (R item)) :
    Yields (items.mapM step) fun results => List.Forall₂ R items results := by
  induction items with
  | nil => exact ⟨[], rfl, .nil⟩
  | cons item rest ih =>
    rw [List.mapM_cons]
    refine (h item List.mem_cons_self).bind fun result hresult => ?_
    refine (ih fun other hother => h other (List.mem_cons_of_mem _ hother)).bind
      fun results hresults => ?_
    exact Yields.pure (.cons hresult hresults)

theorem Yields.mapM {ε α β : Type} {Q : β → Prop} {items : List α} {step : α → Except ε β}
    (h : ∀ item ∈ items, Yields (step item) Q) :
    Yields (items.mapM step) fun results => ∀ b ∈ results, Q b := by
  refine (forall₂_of_yields h).imp fun results hresults b hb => ?_
  obtain ⟨item, -, hitem⟩ := exists_of_forall₂_left hresults.flip hb
  exact hitem

/-- A field that has a type, as every field of a struct does. -/
structure TypedField (records : RecordMap) (f : Field) :
    Prop extends WellFormedField records f where
  typed : f.type.isSome = true

theorem WellFormedRecord.typedField {records : RecordMap} {r : Record}
    (h : WellFormedRecord records r) (hstruct : r.isStruct = true) :
    ∀ f ∈ r.fields, TypedField records f :=
  fun f hf => ⟨h.fields f hf, h.typed hstruct f hf⟩

theorem TypedField.bind_resolved {records : RecordMap} {f : Field} (h : TypedField records f)
    {β : Type} {next : Ty → Except Error β} {Q : β → Prop}
    (hnext : ∀ t, WellFormedType records t → Yields (next t) Q) :
    Yields (resolved f.type >>= next) Q := by
  obtain ⟨t, ht⟩ := Option.isSome_iff_exists.1 h.typed
  rw [ht]
  exact hnext t (h.type t ht)

/-! ## Names -/

theorem flat_joinTexts {values : List Json} (h : ∀ v ∈ values, IsName v) {separator : String}
    (hseparator : Flat separator) : Yields (Schema.joinTexts separator values) Flat := by
  obtain ⟨texts, rfl, hwords⟩ := exists_texts fun v hv => (h v hv).exists_str
  refine ⟨_, joinTexts_map separator texts, ?_⟩
  exact Layout.flat_intercalate hseparator fun text htext => (hwords text htext).solid.flat

theorem isWord_intercalate {texts : List String} (hne : texts ≠ [])
    (hwords : ∀ text ∈ texts, IsWord text) : IsWord ("_".intercalate texts) := by
  induction texts with
  | nil => exact absurd rfl hne
  | cons text rest ih =>
    have htext := hwords text List.mem_cons_self
    cases rest with
    | nil => exact htext
    | cons next rest =>
      rw [String.intercalate_cons_cons]
      have hrest := ih (by simp) fun other hother => hwords other (List.mem_cons_of_mem _ hother)
      exact (htext.append (List.all_eq_true.1 (by decide))).append hrest.2

theorem yields_fieldName {name : Json} (h : IsName name) (scope : Scope) :
    Yields ((Speller.plain scope).fieldName name) IsWord := by
  obtain ⟨s, rfl, hs⟩ := h.exists_str
  exact Yields.ofValue (exists_fieldName hs)

theorem yields_variantName {name : Json} (h : IsName name) (scope : Scope) :
    Yields ((Speller.plain scope).variantName name) IsWord := by
  obtain ⟨s, rfl, hs⟩ := h.exists_str
  exact Yields.ofValue (exists_variantName hs)

theorem yields_constantName {name : Json} (h : IsName name) (scope : Scope) :
    Yields ((Speller.plain scope).constantName name) IsWord := by
  obtain ⟨s, rfl, hs⟩ := h.exists_str
  exact Yields.ofValue (exists_constantName hs)

theorem yields_variantBase {f : Field} (h : IsName f.name) :
    Yields (Enum.variantBase f : Except Error String) IsWord := by
  obtain ⟨s, hname, hs⟩ := h.exists_str
  rw [Enum.variantBase, hname]
  exact Yields.lift (Yields.ofValue (exists_upperCamel hs))

theorem isWordChar_kindSuffix (f : Field) :
    ∀ c ∈ (Enum.kindSuffix f).toList, Naming.isWordChar c = true := by
  rw [Enum.kindSuffix]
  split
  · exact List.all_eq_true.1 (by decide)
  · exact List.all_eq_true.1 (by decide)

theorem yields_kindName {f : Field} (h : IsName f.name) :
    Yields (Enum.kindName f : Except Error String) IsWord := by
  refine (yields_variantBase h).bind fun base hbase => ?_
  exact Yields.pure ((isWord_lowerFirst hbase).append (isWordChar_kindSuffix f))

theorem yields_optionClass {f : Field} (h : IsName f.name) {name : String} (hname : Solid name) :
    Yields (Enum.optionClass name f : Except Error String) Solid := by
  refine (yields_variantBase h).bind fun base hbase => ?_
  refine Yields.pure ?_
  rw [String.append_assoc]
  exact (hname.toInline.append (by decide)).append_trailing
    (hbase.append (isWordChar_kindSuffix f)).solid.toTrailing

/-! ## Types -/

variable {scope : Scope}

theorem yields_className {r : Record} (h : WellFormedRecord scope.records r) :
    Yields (scope.className r) Solid := by
  obtain ⟨texts, htexts, hwords⟩ := exists_texts fun v hv => (h.ancestors v hv).exists_str
  obtain ⟨path, hpath, hmodule⟩ := h.path.exists_str
  have hname : Solid ("_".intercalate texts) := by
    refine (isWord_intercalate (fun hnil => h.ancestors_ne_nil ?_) hwords).solid
    rw [htexts, hnil, List.map_nil]
  refine ⟨_, className_eq htexts hpath scope, ?_⟩
  split
  · exact hname
  · exact (hmodule.inline_moduleAlias.append (by decide)).append_trailing hname.toTrailing

/-- The records of a scope are well-formed. -/
def WellFormedScope (scope : Scope) : Prop :=
  ∀ entry ∈ scope.records, WellFormedRecord scope.records entry.2

theorem yields_record (hscope : WellFormedScope scope) {type : Ty}
    (h : WellFormedType scope.records type) {key : String} (hkey : key ∈ type.recordKeys) :
    Yields (scope.record key) (WellFormedRecord scope.records) := by
  obtain ⟨r, hr⟩ := Option.isSome_iff_exists.1 (h.found key hkey)
  refine ⟨r, record_eq_ok_iff.2 hr, hscope (key, r) ?_⟩
  obtain ⟨before, after, hrecords, -⟩ := List.lookup_eq_some_iff.1 hr
  rw [hrecords]
  exact List.mem_append_right _ List.mem_cons_self

theorem yields_recordType {name : String} (hname : Solid name) {flavor : Flavor}
    (hflavor : flavor ≠ .kind) (r : Record) (allFrozen : Option Bool) :
    Yields (recordType r name flavor allFrozen) Solid := by
  obtain ⟨suffix, hsuffix, htext⟩ := exists_recordType hflavor r name allFrozen
  have hsuffixes : ∀ suffix ∈ ["", "_orMutable", "_mutable"], suffix = "" ∨ Trailing suffix := by
    decide
  refine ⟨_, htext, ?_⟩
  obtain rfl | htrailing := hsuffixes suffix hsuffix
  · rwa [String.append_empty]
  · exact hname.toInline.append_trailing htrailing

theorem yields_arrayShape {flavor : Flavor} (h : flavor ≠ .kind) :
    Yields (arrayShape flavor) fun shape => shape.1 ≠ .kind ∧ Inline shape.2 := by
  obtain ⟨itemFlavor, shape, hmem, hshape, hitem⟩ := exists_arrayShape h
  have hinline : ∀ shape ∈ ["_core.Iterable", "_core.List"], Inline shape := by decide
  exact ⟨_, hshape, hitem, hinline shape hmem⟩

namespace WellFormedType

variable {records : RecordMap} {item keyType : Ty} {path : List Json}

theorem item_of_keyed (h : WellFormedType records (.keyedArray item path keyType)) :
    WellFormedType records item where
  names part hpart := h.names part (by simp [Ty.keyParts, hpart])
  found key hkey := h.found key (by simp [Ty.recordKeys, hkey])

theorem key_of_keyed (h : WellFormedType records (.keyedArray item path keyType)) :
    WellFormedType records keyType where
  names part hpart := h.names part (by simp [Ty.keyParts, hpart])
  found key hkey := h.found key (by simp [Ty.recordKeys, hkey])

theorem path_of_keyed (h : WellFormedType records (.keyedArray item path keyType)) :
    ∀ part ∈ path, IsName part :=
  fun part hpart => h.names part (by simp [Ty.keyParts, hpart])

theorem hashable {type : Ty} (h : WellFormedType records type) : type.hashable = true :=
  hashable_of_isText fun part hpart => (h.names part hpart).isText

end WellFormedType

theorem solid_keyArgument {spelt : String} (h : Solid spelt) (keyType : Ty) :
    Solid (keyArgument keyType spelt) := by
  cases keyType with
  | record key => exact h.toInline.append_trailing (by decide)
  | primitive p => exact h
  | array item => exact h
  | keyedArray item path keyType => exact h
  | optional other => exact h

theorem yields_spell (hscope : WellFormedScope scope) {type : Ty}
    (h : WellFormedType scope.records type) {flavor : Flavor} (hflavor : flavor ≠ .kind)
    (allFrozen : Option Bool) : Yields (spell scope flavor allFrozen type) Solid := by
  induction type generalizing flavor allFrozen with
  | primitive p => exact Yields.ok (by cases p <;> decide)
  | record key =>
    refine (Yields.lift (yields_record hscope h List.mem_cons_self)).bind fun r hr => ?_
    refine (yields_className hr).bind fun name hname => ?_
    exact Yields.lift (yields_recordType hname hflavor r allFrozen)
  | optional other ih =>
    refine (ih ⟨h.names, h.found⟩ hflavor allFrozen).bind fun spelt hspelt => ?_
    exact Yields.ok (hspelt.toInline.append_trailing (by decide))
  | array item ih =>
    refine (Yields.lift (yields_arrayShape hflavor)).bind fun shape hshape => ?_
    refine (ih ⟨h.names, h.found⟩ hshape.1 allFrozen).bind fun spelt hspelt => ?_
    refine Yields.ok (Inline.append_trailing ?_ (by decide))
    exact (hshape.2.append (by decide)).append hspelt.flat
  | keyedArray item path keyType ihItem ihKey =>
    refine (Yields.lift (yields_arrayShape hflavor)).bind fun shape hshape => ?_
    refine (ihItem h.item_of_keyed hshape.1 allFrozen).bind fun spelt hspelt => ?_
    split
    · refine (ihKey h.key_of_keyed (by decide) none).bind fun key hkey => ?_
      refine Yields.ok (Inline.append_trailing ?_ (by decide))
      exact (((Inline.append (by decide) hspelt.flat).append (by decide)).append
        (solid_keyArgument hkey keyType).flat)
    · refine Yields.ok (Inline.append_trailing ?_ (by decide))
      exact (hshape.2.append (by decide)).append hspelt.flat

theorem yields_dartType (hscope : WellFormedScope scope) {type : Ty}
    (h : WellFormedType scope.records type) {flavor : Flavor} (hflavor : flavor ≠ .kind)
    (allFrozen : Option Bool) :
    Yields ((Speller.plain scope).dartType type flavor allFrozen) Solid := by
  change Yields (dartType scope type flavor allFrozen) Solid
  rw [dartType, if_pos h.hashable]
  exact yields_spell hscope h hflavor allFrozen

/-! ## Expressions -/

theorem yields_keyAccess {path : List Json} (h : ∀ part ∈ path, IsName part) (scope : Scope) :
    Yields ((Speller.plain scope).keyAccess path) Flat := by
  refine (Yields.mapM fun part hpart => yields_fieldName (h part hpart) scope).bind
    fun names hnames => ?_
  exact Yields.pure (Layout.flat_intercalate (by decide) fun name hname =>
    (hnames name hname).solid.flat)

theorem yields_defaultValue (hscope : WellFormedScope scope) {type : Ty}
    (h : WellFormedType scope.records type) :
    Yields ((Speller.plain scope).defaultValue type) fun default => Inline default.expression := by
  cases type with
  | primitive p => exact Yields.ok (by cases p <;> decide)
  | array item => exact Yields.ok (by decide)
  | keyedArray item path keyType => exact Yields.ok (by decide)
  | optional other => exact Yields.ok (by decide)
  | record key =>
    refine (Yields.lift (yields_record hscope h List.mem_cons_self)).bind fun r _ => ?_
    refine (yields_dartType hscope h (by decide) none).bind fun frozen hfrozen => ?_
    split
    · exact Yields.pure (hfrozen.toInline.append (by decide))
    · exact Yields.pure (hfrozen.toInline.append (by decide))

theorem yields_toFrozen (hscope : WellFormedScope scope) {type : Ty}
    (h : WellFormedType scope.records type) {input : String} (hinput : Inline input) :
    Yields ((Speller.plain scope).toFrozen input type) Inline := by
  have hit : Inline "it" := by decide
  induction type generalizing input with
  | primitive p =>
    refine Yields.pure ?_
    split
    · exact hinput.append (by decide)
    · exact hinput
  | record key =>
    refine (Yields.lift (yields_record hscope h List.mem_cons_self)).bind fun r _ => ?_
    refine Yields.pure ?_
    split
    · exact hinput.append (by decide)
    · exact hinput
  | array item ih =>
    refine (ih ⟨h.names, h.found⟩ hit).bind fun each heach => ?_
    split
    · exact Yields.pure ((Inline.append (by decide) hinput.flat).append (by decide))
    · exact Yields.pure ((((Inline.append (by decide) hinput.flat).append (by decide)).append
        heach.flat).append (by decide))
  | optional other ih =>
    refine (ih ⟨h.names, h.found⟩ hinput).bind fun inner hinner => ?_
    split
    · exact Yields.pure hinner
    · exact Yields.pure ((((Inline.append (by decide) hinput.flat).append (by decide)).append
        hinner.flat).append (by decide))
  | keyedArray item path keyType ihItem _ =>
    refine (ihItem h.item_of_keyed hit).bind fun each heach => ?_
    refine (yields_keyAccess h.path_of_keyed scope).bind fun access haccess => ?_
    have hkeyed {head : String} (hhead : Inline head) :
        Inline (head ++ input ++ ", \"" ++ access ++ "\", (it) => it." ++ access) :=
      ((((hhead.append hinput.flat).append (by decide)).append haccess).append (by decide)).append
        haccess
    split
    · exact Yields.pure ((hkeyed (by decide)).append (by decide))
    · exact Yields.pure ((((hkeyed (by decide)).append (by decide)).append heach.flat).append
        (by decide))

end DartRecords.Dart
