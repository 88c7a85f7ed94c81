import DartRecords.Proofs.Balance
import DartRecords.Proofs.Serializers

/-!
# Default values and the types of fields

The frozen class of a struct passes default values in three places: to the default instance, to a
new mutable value, and in the getters of fields that contain their own record.  The types of the
fields and their default values come from tables and recursions of their own.

`DefaultOf` has the typing rules for default expressions, as a relation between texts.  Field by
field, a default value is null or of the frozen type of the field, unless the type is `uint64`,
whose values are big integers but whose default is a plain one (`defaultOf_iff`).  The frozen class
of a struct is written from its fields, with their default values in all three places
(`frozenClass_eq_ok`), so its default values are typed exactly if no field is a `uint64`
(`defaults_typed_iff`).
-/

namespace DartRecords.Dart

open Schema (Field Record RecordMap Ty)

/-! ## Typing rules -/

/-- The Dart expression of a text is a default value of the Dart type of another one. -/
inductive DefaultOf (scope : Scope) : String → String → Prop
  | bool : DefaultOf scope "false" "_core.bool"
  | int : DefaultOf scope "0" "_core.int"
  | double : DefaultOf scope "0.0" "_core.double"
  | string : DefaultOf scope "\"\"" "_core.String"
  | dateTime : DefaultOf scope "_soia.unixEpoch" "_core.DateTime"
  | bytes : DefaultOf scope "_soia.ByteString.empty" "_soia.ByteString"
  | null (a : String) : DefaultOf scope "null" (a ++ "?")
  | iterable (a : String) : DefaultOf scope "_soia.KeyedIterable.empty"
    ("_core.Iterable<" ++ a ++ ">")
  | keyedIterable (a key : String) :
      DefaultOf scope "_soia.KeyedIterable.empty"
        ("_soia.KeyedIterable<" ++ a ++ ", " ++ key ++ ">")
  | struct {key name : String} {record : Record} : scope.records.lookup key = some record →
      record.isStruct = true → scope.className record = .ok name →
      DefaultOf scope (name ++ ".defaultInstance") name
  | enum {key name : String} {record : Record} : scope.records.lookup key = some record →
      record.isStruct = false → scope.className record = .ok name →
      DefaultOf scope (name ++ ".unknown") name

variable {scope : Scope}

/-- Zero is a plain integer and nothing else. -/
theorem DefaultOf.eq_int_of_zero {a : String} (h : DefaultOf scope "0" a) : a = "_core.int" := by
  generalize hzero : "0" = expression at h
  have hlong : ∀ (name : String) {member : String}, 1 < member.length → "0" ≠ name ++ member := by
    intro name member hmember heq
    have hlength := congrArg String.length heq
    rw [String.length_append, show "0".length = 1 from rfl] at hlength
    omega
  cases h with
  | int => rfl
  | struct => exact absurd hzero (hlong _ (by decide))
  | enum => exact absurd hzero (hlong _ (by decide))
  | _ => exact absurd hzero (by decide)

/-! ## The default value of one type -/

theorem defaultValue_record_eq_ok {key : String} {value : DefaultValue} :
    (Speller.plain scope).defaultValue (.record key) = .ok value ↔
      ∃ record frozen, scope.records.lookup key = some record ∧
        dartType scope (.record key) .frozen none = .ok frozen ∧
        (if record.isStruct then ⟨frozen ++ ".defaultInstance", false⟩
          else ⟨frozen ++ ".unknown", true⟩) = value := by
  change (lift (scope.record key) >>= fun record =>
    dartType scope (.record key) .frozen none >>= fun frozen =>
    if record.isStruct then pure ⟨frozen ++ ".defaultInstance", false⟩
    else pure ⟨frozen ++ ".unknown", true⟩) = Except.ok value ↔ _
  simp only [bind_eq_ok_iff, lift_eq, record_eq_ok_iff, pure, Except.pure, ← apply_ite Except.ok,
    Except.ok.injEq, exists_and_left]

theorem exists_defaultValue {type : Ty} (h : ResolvedType scope.records type) :
    ∃ value, (Speller.plain scope).defaultValue type = .ok value := by
  cases type with
  | primitive p => exact ⟨_, rfl⟩
  | array item => exact ⟨_, rfl⟩
  | keyedArray item path keyType => exact ⟨_, rfl⟩
  | optional other => exact ⟨_, rfl⟩
  | record key =>
    obtain ⟨record, hlookup, -⟩ := h.found key List.mem_cons_self
    obtain ⟨frozen, hfrozen⟩ := h.exists_writtenAs (show Flavor.frozen ≠ .kind by decide) none
    exact ⟨_, defaultValue_record_eq_ok.2 ⟨record, frozen, hlookup, hfrozen.fresh, rfl⟩⟩

theorem defaultOf_primitive {p : Schema.Primitive} (h : p ≠ .uint64) :
    DefaultOf scope (primitiveDefault p).expression (primitiveType p) := by
  cases p with
  | bool => exact .bool
  | int32 => exact .int
  | int64 => exact .int
  | uint64 => exact absurd rfl h
  | float32 => exact .double
  | float64 => exact .double
  | timestamp => exact .dateTime
  | string => exact .string
  | bytes => exact .bytes

/-- The default value of a type is one of its frozen type, unless the type is `uint64`. -/
theorem defaultOf_of_ne {type : Ty} {value : DefaultValue} {frozen : String}
    (hvalue : (Speller.plain scope).defaultValue type = .ok value)
    (hfrozen : spell scope .frozen none type = .ok frozen) (h : type ≠ .primitive .uint64) :
    DefaultOf scope value.expression frozen := by
  cases type with
  | primitive p =>
    cases hvalue
    cases hfrozen
    exact defaultOf_primitive fun hp => h (by rw [hp])
  | array item =>
    cases hvalue
    obtain ⟨_, _, a, hshape, -, rfl⟩ := spell_array_eq_ok.1 hfrozen
    cases hshape
    exact .iterable a
  | keyedArray item path keyType =>
    cases hvalue
    obtain ⟨_, _, a, hshape, -, hfrozen⟩ := spell_keyedArray_eq_ok.1 hfrozen
    rw [if_pos rfl] at hfrozen
    obtain ⟨key, -, rfl⟩ := hfrozen
    exact .keyedIterable a _
  | optional other =>
    cases hvalue
    obtain ⟨a, -, rfl⟩ := spell_optional_eq_ok.1 hfrozen
    exact .null a
  | record key =>
    obtain ⟨record, frozen', hlookup, hfrozen', rfl⟩ := defaultValue_record_eq_ok.1 hvalue
    cases (spell_of_dartType hfrozen').symm.trans hfrozen
    obtain ⟨record', name, hlookup', hname, htype⟩ := spell_record_eq_ok.1 hfrozen
    cases hlookup.symm.trans hlookup'
    cases (recordType_frozen record name none).symm.trans htype
    cases hkind : record.isStruct with
    | true => exact .struct hlookup hkind hname
    | false => exact .enum hlookup hkind hname

/-- The default value of a type is one of its frozen type exactly if the type is not `uint64`. -/
theorem defaultOf_iff {type : Ty} {value : DefaultValue} {frozen : String}
    (hvalue : (Speller.plain scope).defaultValue type = .ok value)
    (hfrozen : spell scope .frozen none type = .ok frozen) :
    DefaultOf scope value.expression frozen ↔ type ≠ .primitive .uint64 := by
  refine ⟨?_, defaultOf_of_ne hvalue hfrozen⟩
  rintro h rfl
  cases hvalue
  cases hfrozen
  exact absurd h.eq_int_of_zero (by decide)

/-! ## The frozen class -/

/-- A field has a type, and the records of that type are there. -/
structure ResolvedField (records : RecordMap) (f : Field) : Prop where
  name : IsText f.name
  type : ∃ type, f.type = some type ∧ ResolvedType records type

/-- What is written about a field where it gets a default value. -/
structure DefaultedField where
  /-- The frozen type of the field. -/
  type : String
  name : String
  /-- The field contains its own record. -/
  recursive : Bool
  default : String

namespace DefaultedField

/-- The property in the frozen class. -/
def property (d : DefaultedField) : String :=
  if d.recursive then
    "final " ++ d.type ++ "? _rec_" ++ d.name ++ ";\n" ++ "@_core.override\n" ++ d.type ++
      " get " ++ d.name
      ++ " => _rec_" ++ d.name ++ " ?? " ++ d.default ++ ";\n"
  else "final " ++ d.type ++ " " ++ d.name ++ ";\n"

/-- The value in the default instance. -/
def inInstance (d : DefaultedField) : String := if d.recursive then "null" else d.default

/-- The expressions that are passed for the field: in the default instance, in a new mutable value,
and in the getter if it has a default value. -/
def passed (d : DefaultedField) : List String :=
  [d.inInstance, d.default] ++ if d.recursive then [d.default] else []

/-- What is written is about this field. -/
structure WrittenFor (scope : Scope) (f : Field) (d : DefaultedField) : Prop where
  recursive : d.recursive = f.isHardRecursive
  name : (Speller.plain scope).fieldName f.name = .ok d.name
  type : ∃ type value, f.type = some type ∧ WrittenAs scope type .frozen none d.type ∧
    (Speller.plain scope).defaultValue type = .ok value ∧ value.expression = d.default

variable {f : Field} {d : DefaultedField}

theorem WrittenFor.property_eq (h : d.WrittenFor scope f) :
    Struct.frozenProperty (Speller.plain scope) f = .ok d.property := by
  obtain ⟨type, value, htype, hfrozen, hvalue, hdefault⟩ := h.type
  refine bind_eq_ok_iff.2 ⟨d.name, h.name, bind_eq_ok_iff.2 ⟨type, by rw [htype]; rfl, ?_⟩⟩
  refine bind_eq_ok_iff.2 ⟨d.type, hfrozen.fresh, ?_⟩
  rw [property, h.recursive]
  split
  · refine bind_eq_ok_iff.2 ⟨value, hvalue, ?_⟩
    rw [hdefault]
    rfl
  · rfl

theorem WrittenFor.default_eq (h : d.WrittenFor scope f) :
    Struct.defaultArgument (Speller.plain scope) f = .ok d.default := by
  obtain ⟨type, value, htype, -, hvalue, hdefault⟩ := h.type
  refine bind_eq_ok_iff.2 ⟨type, by rw [htype]; rfl, bind_eq_ok_iff.2 ⟨value, hvalue, ?_⟩⟩
  rw [hdefault]
  rfl

theorem WrittenFor.inInstance_eq (h : d.WrittenFor scope f) :
    Struct.defaultInstanceArgument (Speller.plain scope) f = .ok d.inInstance := by
  rw [Struct.defaultInstanceArgument, inInstance, h.recursive]
  split
  · rfl
  · exact h.default_eq

theorem eq_of_mem_passed {expression : String} (h : expression ∈ d.passed) :
    expression = "null" ∨ expression = d.default := by
  rw [passed, inInstance] at h
  cases hrecursive : d.recursive with
  | true => simpa [hrecursive] using h
  | false => exact .inr (by simpa [hrecursive] using h)

/-- All that is passed for a field and is not null is a default value of its type, exactly if the
type is not `uint64`. -/
theorem WrittenFor.passed_typed_iff (h : d.WrittenFor scope f) :
    (∀ expression ∈ d.passed, expression ≠ "null" → DefaultOf scope expression d.type) ↔
      f.type ≠ some (.primitive .uint64) := by
  obtain ⟨type, value, htype, hfrozen, hvalue, hdefault⟩ := h.type
  have htyped := defaultOf_iff hvalue (spell_of_dartType hfrozen.fresh)
  rw [hdefault] at htyped
  rw [htype, ne_eq, Option.some.injEq]
  constructor
  · rintro hpassed rfl
    cases hvalue
    refine absurd rfl (htyped.1 (hpassed d.default (by simp [passed]) ?_))
    rw [← hdefault]
    decide
  · intro hne expression hmem hnull
    obtain rfl | rfl := eq_of_mem_passed hmem
    · exact absurd rfl hnull
    · exact htyped.2 hne

end DefaultedField

/-- A resolved field has a frozen type and a default value. -/
theorem ResolvedField.exists_defaulted {f : Field} (h : ResolvedField scope.records f) :
    ∃ d : DefaultedField, d.WrittenFor scope f := by
  obtain ⟨type, htype, hresolved⟩ := h.type
  obtain ⟨name, hname, -⟩ := @yields_fieldName_of_isText scope _ h.name
  obtain ⟨frozen, hfrozen⟩ := hresolved.exists_writtenAs (show Flavor.frozen ≠ .kind by decide) none
  obtain ⟨value, hvalue⟩ := exists_defaultValue hresolved
  exact ⟨⟨frozen, name, f.isHardRecursive, value.expression⟩, rfl, hname, type, value, htype,
    hfrozen, hvalue, rfl⟩

/-- The code of the frozen class, with the properties and the default values of the fields.  The
constructors and the other members are given. -/
def frozenCode (name : String) (fields : List DefaultedField) (constructors others : List String) :
    List String :=
  ["final class " ++ name ++ " implements " ++ name ++ "_orMutable \x7b\n"]
    ++ fields.map DefaultedField.property
    ++ constructors
    ++ [");\n\n", "static final defaultInstance = " ++ name ++ "._(\n"]
    ++ (fields.map DefaultedField.inInstance).map Struct.asLine
    ++ [");\n\n", "static " ++ name ++ "_mutable mutable() => " ++ name ++ "_mutable._(\n"]
    ++ (fields.map DefaultedField.default).map Struct.asLine
    ++ [");\n\n"]
    ++ others

theorem mapM_of_forall₂ {α β γ : Type} {R : α → β → Prop} {step : α → Except Error γ}
    {result : β → γ} {items : List α} {others : List β} (h : List.Forall₂ R items others)
    (hstep : ∀ {item other}, R item other → step item = .ok (result other)) :
    items.mapM step = .ok (others.map result) := by
  induction h with
  | nil => rfl
  | cons hfirst _ ih =>
    rw [List.mapM_cons, hstep hfirst, ih]
    rfl

/-! ## The classes of a struct -/

namespace ResolvedField

variable {f : Field} (h : ResolvedField scope.records f)

include h

theorem exists_name : ∃ name, (Speller.plain scope).fieldName f.name = .ok name := by
  obtain ⟨name, hname, -⟩ := @yields_fieldName_of_isText scope _ h.name
  exact ⟨name, hname⟩

/-- What is written about a field from its name alone. -/
theorem exists_namedPart (part : String → String) :
    ∃ text, ((Speller.plain scope).fieldName f.name >>= fun name => pure (part name)) =
      Except.ok text := by
  obtain ⟨name, hname⟩ := @exists_name scope f h
  exact ⟨part name, bind_eq_ok_iff.2 ⟨name, hname, rfl⟩⟩

/-- What is written about a field from its name and its type. -/
theorem exists_typedPart {flavor : Flavor} (hflavor : flavor ≠ .kind) (allFrozen : Option Bool)
    (part : String → String → String) :
    ∃ text, (resolved f.type >>= fun type =>
      (Speller.plain scope).dartType type flavor allFrozen >>= fun spelt =>
      (Speller.plain scope).fieldName f.name >>= fun name => pure
      (part spelt name)) = Except.ok text := by
  obtain ⟨type, htype, hresolved⟩ := h.type
  obtain ⟨spelt, hspelt⟩ := hresolved.exists_writtenAs hflavor allFrozen
  obtain ⟨name, hname⟩ := @exists_name scope f h
  refine ⟨part spelt name, bind_eq_ok_iff.2 ⟨type, by rw [htype]; rfl, ?_⟩⟩
  exact bind_eq_ok_iff.2 ⟨spelt, hspelt.fresh, bind_eq_ok_iff.2 ⟨name, hname, rfl⟩⟩

theorem exists_frozenArgument :
    ∃ text, Struct.frozenArgument (Speller.plain scope) f = .ok text := by
  obtain ⟨type, htype, hresolved⟩ := h.type
  obtain ⟨name, hname⟩ := @exists_name scope f h
  obtain ⟨frozen, hfrozen⟩ := exists_toFrozen hresolved name
  refine ⟨frozen ++ ",\n",
    bind_eq_ok_iff.2 ⟨name, hname, bind_eq_ok_iff.2 ⟨type, by rw [htype]; rfl, ?_⟩⟩⟩
  exact bind_eq_ok_iff.2 ⟨frozen, hfrozen, rfl⟩

theorem allows : Questions.texts.AllowsField scope f := by
  obtain ⟨type, htype, hresolved⟩ := h.type
  refine ⟨h.name, fun other hother => ?_⟩
  cases htype.symm.trans hother
  exact hresolved.allows

end ResolvedField

section Class

variable {fields : List Field} (hfields : ∀ f ∈ fields, ResolvedField scope.records f)

include hfields

theorem exists_parts (step : Field → Except Error String)
    (hstep : ∀ f, ResolvedField scope.records f → ∃ text, step f = .ok text) :
    ∃ texts, fields.mapM step = .ok texts := by
  obtain ⟨texts, htexts, -⟩ := @Yields.mapM _ _ _ (fun _ => True) fields step fun f hf =>
    (hstep f (hfields f hf)).imp fun _ htext => ⟨htext, trivial⟩
  exact ⟨texts, htexts⟩

/-- The frozen class has the properties of its fields, and passes their default values. -/
theorem frozenClass_eq_ok (name : String) {defaulted : List DefaultedField}
    (hdefaulted : List.Forall₂ (fun f (d : DefaultedField) => d.WrittenFor scope f)
      fields defaulted) :
    ∃ constructors others, Struct.frozenClass (Speller.plain scope) name fields =
      .ok (frozenCode name defaulted constructors others) := by
  obtain ⟨parameters, hparameters⟩ := exists_parts hfields (Struct.parameter (Speller.plain scope))
    fun f hf => hf.exists_typedPart (by decide) none _
  obtain ⟨frozenArguments, hfrozen⟩ := exists_parts hfields _ fun f hf => hf.exists_frozenArgument
  obtain ⟨formals, hformals⟩ := exists_parts hfields (Struct.frozenFormal (Speller.plain scope))
    fun f hf => hf.exists_namedPart _
  obtain ⟨ownFields, hown⟩ := exists_parts hfields (Struct.ownField (Speller.plain scope))
    fun f hf => hf.exists_namedPart _
  refine ⟨["_soia.UnrecognizedFields<" ++ name ++ ">? _unrecognizedFields;\n\n",
    "factory " ++ name ++ "("]
      ++ Struct.inBraces parameters ++ [") => " ++ name ++ "._(\n"] ++ frozenArguments
      ++ [");\n\n", name ++ "._(\n"] ++ formals,
    ["@_core.deprecated\n", "@_core.override\n", name ++ " toFrozen() => this;\n\n",
      name ++ "_mutable toMutable() => " ++ name ++ "_mutable._(\n"] ++ ownFields ++ [");\n",
      "\x7d\n\n"], ?_⟩
  refine bind_eq_ok_iff.2 ⟨_, mapM_of_forall₂ hdefaulted fun hd => hd.property_eq, ?_⟩
  refine bind_eq_ok_iff.2 ⟨parameters, hparameters, bind_eq_ok_iff.2 ⟨frozenArguments, hfrozen, ?_⟩⟩
  refine bind_eq_ok_iff.2 ⟨formals, hformals, ?_⟩
  refine bind_eq_ok_iff.2 ⟨_, mapM_of_forall₂ hdefaulted fun hd => hd.inInstance_eq, ?_⟩
  refine bind_eq_ok_iff.2 ⟨_, mapM_of_forall₂ hdefaulted fun hd => hd.default_eq, ?_⟩
  refine bind_eq_ok_iff.2 ⟨ownFields, hown, congrArg Except.ok ?_⟩
  simp only [frozenCode, List.append_assoc, List.cons_append, List.nil_append]

theorem exists_sealedClass (name : String) :
    ∃ code, Struct.sealedClass (Speller.plain scope) name fields = .ok code := by
  obtain ⟨getters, hgetters⟩ := exists_parts hfields (Struct.getter (Speller.plain scope))
    fun f hf => hf.exists_typedPart (by decide) (some f.isHardRecursive) _
  exact ⟨_, bind_eq_ok_iff.2 ⟨getters, hgetters, rfl⟩⟩

theorem exists_mutableClass (name : String) :
    ∃ code, Struct.mutableClass (Speller.plain scope) name fields = .ok code := by
  obtain ⟨properties, hproperties⟩ :=
    exists_parts hfields (Struct.mutableProperty (Speller.plain scope))
    fun f hf => hf.exists_typedPart (by decide) (some f.isHardRecursive) _
  obtain ⟨formals, hformals⟩ := exists_parts hfields (Struct.ownField (Speller.plain scope))
    fun f hf => hf.exists_namedPart _
  obtain ⟨arguments, harguments⟩ :=
    exists_parts hfields (Struct.namedArgument (Speller.plain scope))
    fun f hf => hf.exists_namedPart _
  exact ⟨_, bind_eq_ok_iff.2 ⟨properties, hproperties, bind_eq_ok_iff.2 ⟨formals, hformals,
    bind_eq_ok_iff.2 ⟨arguments, harguments, rfl⟩⟩⟩⟩

theorem exists_defaultedFields :
    ∃ defaulted : List DefaultedField,
      List.Forall₂ (fun f d => d.WrittenFor scope f) fields defaulted := by
  induction fields with
  | nil => exact ⟨[], .nil⟩
  | cons f rest ih =>
    obtain ⟨first, hfirst⟩ := (hfields f List.mem_cons_self).exists_defaulted
    obtain ⟨others, hothers⟩ := ih fun g hg => hfields g (List.mem_cons_of_mem f hg)
    exact ⟨first :: others, .cons hfirst hothers⟩

end Class

/-- The default values of all fields are typed exactly if no field is a `uint64`. -/
theorem passed_typed_iff_forall {fields : List Field} {defaulted : List DefaultedField}
    (h : List.Forall₂ (fun f (d : DefaultedField) => d.WrittenFor scope f) fields defaulted) :
    (∀ d ∈ defaulted, ∀ expression ∈ d.passed, expression ≠ "null" →
      DefaultOf scope expression d.type) ↔
      ∀ f ∈ fields, f.type ≠ some (.primitive .uint64) := by
  induction h with
  | nil => simp
  | cons hfirst _ ih => rw [List.forall_mem_cons, List.forall_mem_cons, hfirst.passed_typed_iff, ih]

/-- The classes of a struct are written from what its fields are and default to, also by a session
whose memory is sound.  All that the default instance, a new mutable value and the getters of
recursive fields pass, and that is not null, has the frozen type of its field, exactly if no field
of the struct is a `uint64`. -/
theorem defaults_typed_iff {struct : Record} (hkind : struct.isStruct = true)
    (hstruct : TextNamed struct) (hfields : ∀ f ∈ struct.fields, ResolvedField scope.records f) :
    ∃ name defaulted sealedOne constructors others mutableOne,
      scope.className struct = .ok name ∧
      List.Forall₂ (fun f (d : DefaultedField) => d.WrittenFor scope f) struct.fields defaulted ∧
      Struct.classes (Speller.plain scope) struct =
        .ok (sealedOne ++ frozenCode name defaulted constructors others ++ mutableOne) ∧
      Gives (Sound scope) (Sound scope) (Struct.classes (Speller.remembering scope) struct)
        (.ok (sealedOne ++ frozenCode name defaulted constructors others ++ mutableOne)) ∧
      ((∀ d ∈ defaulted, ∀ expression ∈ d.passed, expression ≠ "null" →
        DefaultOf scope expression d.type) ↔
        ∀ f ∈ struct.fields, f.type ≠ some (.primitive .uint64)) := by
  obtain ⟨name, hname⟩ := exists_className hstruct scope
  obtain ⟨defaulted, hdefaulted⟩ := exists_defaultedFields hfields
  obtain ⟨sealedOne, hsealed⟩ := exists_sealedClass hfields name
  obtain ⟨constructors, others, hfrozen⟩ := frozenClass_eq_ok hfields name hdefaulted
  obtain ⟨mutableOne, hmutable⟩ := exists_mutableClass hfields name
  have hclasses : Struct.classes (Speller.plain scope) struct =
      .ok (sealedOne ++ frozenCode name defaulted constructors others ++ mutableOne) := by
    refine bind_eq_ok_iff.2 ⟨name, by rw [← hname]; rfl, bind_eq_ok_iff.2 ⟨sealedOne, hsealed, ?_⟩⟩
    exact bind_eq_ok_iff.2 ⟨_, hfrozen, bind_eq_ok_iff.2 ⟨mutableOne, hmutable, rfl⟩⟩
  have hallows : Questions.texts.AllowsRecord scope struct :=
    ⟨trivial, fun f hf => (hfields f hf).allows, fun henum =>
      absurd (hkind.symm.trans henum) (by decide)⟩
  have hgives := (spells_remembering scope).structClasses hallows
  rw [hclasses] at hgives
  exact ⟨name, defaulted, sealedOne, constructors, others, mutableOne, hname, hdefaulted,
    hclasses, hgives, passed_typed_iff_forall hdefaulted⟩

/-- A list of numbers, as its first one and the rest. -/
def chainRecord : Record where
  key := "chain.soia:Chain"
  name := .str "Chain"
  kind := .struct
  fields := [⟨.str "first", 0, some (.primitive .float64), none⟩,
    ⟨.str "rest", 1, some (.record "chain.soia:Chain"), some .hard⟩]
  ancestors := [.str "Chain"]
  modulePath := .str "chain.soia"

def chainScope : Scope where
  records := [(chainRecord.key, chainRecord)]
  origin := .str "chain.soia"

/-- The rest of a chain defaults to the default instance, behind a getter. -/
theorem chain_defaults_typed : chainRecord.isStruct = true ∧ TextNamed chainRecord ∧
    (∀ f ∈ chainRecord.fields, ResolvedField chainScope.records f) ∧
    ∃ first rest : DefaultedField, first.passed = ["0.0", "0.0"] ∧
      rest.passed = ["null", "Chain.defaultInstance", "Chain.defaultInstance"] ∧
      ∀ d ∈ [first, rest], ∀ expression ∈ d.passed, expression ≠ "null" →
        DefaultOf chainScope expression d.type := by
  have hnamed : TextNamed chainRecord := ⟨by simp [chainRecord, IsText], _, rfl⟩
  have hfields : ∀ f ∈ chainRecord.fields, ResolvedField chainScope.records f := by
    simp only [chainRecord, List.forall_mem_cons, List.not_mem_nil, false_implies,
      implies_true, and_true]
    refine ⟨⟨⟨_, rfl⟩, _, rfl, ?_, ?_⟩, ⟨_, rfl⟩, _, rfl, ?_, ?_⟩
    · simp [Ty.keyParts]
    · simp [Ty.recordKeys]
    · simp [Ty.keyParts]
    · intro key hkey
      obtain rfl : key = "chain.soia:Chain" := by simpa [Ty.recordKeys] using hkey
      exact ⟨chainRecord, rfl, hnamed⟩
  obtain ⟨_, defaulted, _, _, _, _, -, hdefaulted, -, -, htyped⟩ :=
    @defaults_typed_iff chainScope chainRecord rfl hnamed hfields
  obtain _ | @⟨_, first, _, _, hfirst, hrests⟩ := hdefaulted
  obtain _ | @⟨_, rest, _, _, hrest, _ | _⟩ := hrests
  have hfirstDefault :=
    Except.ok.inj (hfirst.default_eq.symm.trans (show _ = Except.ok "0.0" from rfl))
  have hrestDefault := Except.ok.inj (hrest.default_eq.symm.trans
    (show _ = Except.ok "Chain.defaultInstance" by decide +kernel))
  have hfirstPlain : first.recursive = false := hfirst.recursive
  have hrestRecursive : rest.recursive = true := hrest.recursive
  refine ⟨rfl, hnamed, hfields, first, rest, ?_, ?_, htyped.2 (by decide)⟩
  · simp [DefaultedField.passed, DefaultedField.inInstance, hfirstPlain, hfirstDefault]
  · simp [DefaultedField.passed, DefaultedField.inInstance, hrestRecursive, hrestDefault]

/-- A number of visits, which is never negative. -/
def visitsRecord : Record where
  key := "visits.soia:Visits"
  name := .str "Visits"
  kind := .struct
  fields := [⟨.str "total", 0, some (.primitive .uint64), none⟩]
  ancestors := [.str "Visits"]
  modulePath := .str "visits.soia"

def visitsScope : Scope where
  records := [(visitsRecord.key, visitsRecord)]
  origin := .str "visits.soia"

/-- The total is a big integer in the class, but its default value is a plain integer. -/
theorem visits_default_mistyped :
    visitsRecord.isStruct = true ∧ TextNamed visitsRecord ∧
    (∀ f ∈ visitsRecord.fields, ResolvedField visitsScope.records f) ∧
    Struct.frozenClass (Speller.plain visitsScope) "Visits" visitsRecord.fields =
      .ok (frozenCode "Visits" [⟨"_core.BigInt", "total", false, "0"⟩]
        ["_soia.UnrecognizedFields<Visits>? _unrecognizedFields;\n\n", "factory Visits(", "\x7b\n",
          "required _core.BigInt total,\n", "\x7d", ") => Visits._(\n", "total,\n", ");\n\n",
            "Visits._(\n",
          "this.total,\n"]
        ["@_core.deprecated\n", "@_core.override\n", "Visits toFrozen() => this;\n\n",
          "Visits_mutable toMutable() => Visits_mutable._(\n", "this.total,\n", ");\n",
            "\x7d\n\n"]) ∧
    ¬ DefaultOf visitsScope "0" "_core.BigInt" := by
  refine ⟨rfl, ⟨by simp [visitsRecord, IsText], _, rfl⟩, ?_, by decide +kernel, ?_⟩
  · simp only [visitsRecord, List.forall_mem_cons, List.not_mem_nil, false_implies,
      implies_true, and_true]
    exact ⟨⟨_, rfl⟩, _, rfl, by simp [Ty.keyParts], by simp [Ty.recordKeys]⟩
  · exact fun h => absurd h.eq_int_of_zero (by decide)

end DartRecords.Dart
