import DartRecords.Proofs.Flavors

/-!
# Conversions that are left out

The conversion to frozen values compares texts: it leaves out the mapping of an array whose items
are converted to the text of the parameter, and a null check around a conversion to the text of the
input.  `ByType` is the conversion without these comparisons.  It looks at nothing but the type, and
converts what is not plain within all optional types (`IsFixed`).

* `toFrozen_eq_ok_iff`: both conversions give the same texts, so no comparison is ever misled by a
  text that happens to be the same.
* `conversion_skipped_iff`: of a resolved type every expression is converted, and it stays as it is
  exactly if the type is fixed.  Such a type is spelt alike for what a constructor is given and for
  what it keeps.
-/

namespace DartRecords.Dart

open Schema (Record Ty)

variable {scope : Scope} {type : Ty} {input text : String}

/-! ## Types whose values stay as they are -/

/-- Within all optional types there is a plain type other than that of points in time, or an
enum. -/
inductive IsFixed (scope : Scope) (type : Ty) : Prop where
  | plain {p : Schema.Primitive} (within : type.withoutOptional = .primitive p)
    (untimed : p ≠ .timestamp)
  | enum {key : String} {record : Record} (within : type.withoutOptional = .record key)
      (found : scope.records.lookup key = some record) (enum : record.isStruct = false)

theorem isFixed_optional_iff {other : Ty} :
    IsFixed scope (.optional other) ↔ IsFixed scope other := by
  constructor
  · rintro (⟨within, untimed⟩ | ⟨within, found, enum⟩)
    · exact .plain within untimed
    · exact .enum within found enum
  · rintro (⟨within, untimed⟩ | ⟨within, found, enum⟩)
    · exact .plain within untimed
    · exact .enum within found enum

theorem not_isFixed_timestamp : ¬IsFixed scope (.primitive .timestamp) := by
  rintro (⟨within, untimed⟩ | ⟨within, _, _⟩)
  · cases within
    exact untimed rfl
  · cases within

theorem isPassive_iff : IsPassive scope type ↔ IsFixed scope type := by
  induction type with
  | primitive p =>
    constructor
    · exact .plain rfl
    · rintro h rfl
      exact not_isFixed_timestamp h
  | record key =>
    constructor
    · rintro ⟨record, hlookup, henum⟩
      exact .enum rfl hlookup henum
    · rintro (⟨within, _⟩ | ⟨within, found, enum⟩)
      · cases within
      · cases within
        exact ⟨_, found, enum⟩
  | array item =>
    refine iff_of_false id ?_
    rintro (⟨within, _⟩ | ⟨within, _, _⟩) <;> cases within
  | keyedArray item path keyType =>
    refine iff_of_false id ?_
    rintro (⟨within, _⟩ | ⟨within, _, _⟩) <;> cases within
  | optional other ih => exact ih.trans isFixed_optional_iff.symm

/-- A conversion gives back its input exactly if the type is fixed. -/
theorem eq_self_iff_isFixed (h : (Speller.plain scope).toFrozen input type = .ok text) :
    text = input ↔ IsFixed scope type :=
  (eq_self_iff h).trans isPassive_iff

/-! ## Conversion by the type alone -/

/-- The text converts the input to a frozen value, where the type decides what is left out. -/
inductive ByType (scope : Scope) : String → Ty → String → Prop where
  | same {input : String} {type : Ty} : IsFixed scope type → ByType scope input type input
  | toUtc {input : String} : ByType scope input (.primitive .timestamp) (input ++ ".toUtc()")
  | toFrozen {input key : String} {record : Record} : scope.records.lookup key = some record →
      record.isStruct = true → ByType scope input (.record key) (input ++ ".toFrozen()")
  | copy {input : String} {item : Ty} : IsFixed scope item →
      ByType scope input (.array item) ("_soia.internal__frozenCopy(" ++ input ++ ")")
  | mappedCopy {input each : String} {item : Ty} : ¬IsFixed scope item →
    ByType scope "it" item each →
      ByType scope input (.array item)
        ("_soia.internal__frozenMappedCopy(" ++ input ++ ", (it) => " ++ each ++ ")")
  | keyedCopy {input access : String} {item keyType : Ty} {path : List Json} : IsFixed scope item →
      (Speller.plain scope).keyAccess path = .ok access →
      ByType scope input (.keyedArray item path keyType)
        ("_soia.internal__keyedCopy(" ++ input ++ ", \"" ++ access ++ "\", (it) => it." ++
          access ++ ")")
  | keyedMappedCopy {input access each : String} {item keyType : Ty} {path : List Json} : ¬IsFixed
    scope item →
      ByType scope "it" item each → (Speller.plain scope).keyAccess path = .ok access →
      ByType scope input (.keyedArray item path keyType)
        ("_soia.internal__keyedMappedCopy(" ++ input ++ ", \"" ++ access ++
          "\", (it) => it." ++ access
          ++ ", (it) => " ++ each ++ ")")
  | nullCheck {input inner : String} {other : Ty} : ¬IsFixed scope other →
    ByType scope input other inner →
      ByType scope input (.optional other) ("(" ++ input ++ " != null) ? " ++ inner ++ " : null")

theorem toFrozen_of_isFixed (h : IsFixed scope type) (input : String) :
    (Speller.plain scope).toFrozen input type = .ok input := by
  rw [← isPassive_iff] at h
  induction type with
  | primitive p => exact toFrozen_primitive_eq_ok.2 (if_neg h)
  | record key =>
    obtain ⟨record, hlookup, henum⟩ := h
    exact toFrozen_record_eq_ok.2 ⟨record, hlookup, by rw [henum, if_neg Bool.false_ne_true]⟩
  | array item => cases h
  | keyedArray item path keyType => cases h
  | optional other ih => exact toFrozen_optional_eq_ok.2 ⟨input, ih h, if_pos rfl⟩

theorem byType_of_toFrozen (h : (Speller.plain scope).toFrozen input type = .ok text) :
    ByType scope input type text := by
  induction type generalizing input text with
  | primitive p =>
    rw [← toFrozen_primitive_eq_ok.1 h]
    split
    · next hp => exact hp ▸ .toUtc
    · next hp => exact .same (.plain rfl hp)
  | record key =>
    obtain ⟨record, hlookup, rfl⟩ := toFrozen_record_eq_ok.1 h
    split
    · next hstruct => exact .toFrozen hlookup hstruct
    · next hstruct => exact .same (.enum rfl hlookup (Bool.eq_false_iff.2 hstruct))
  | array item ih =>
    obtain ⟨each, heach, rfl⟩ := toFrozen_array_eq_ok.1 h
    have htest := eq_self_iff_isFixed heach
    split
    · next hsame => exact .copy (htest.1 hsame)
    · next hother => exact .mappedCopy (mt htest.2 hother) (ih heach)
  | keyedArray item path keyType ih =>
    obtain ⟨each, access, heach, haccess, rfl⟩ := toFrozen_keyedArray_eq_ok.1 h
    have htest := eq_self_iff_isFixed heach
    split
    · next hsame => exact .keyedCopy (htest.1 hsame) haccess
    · next hother => exact .keyedMappedCopy (mt htest.2 hother) (ih heach) haccess
  | optional other ih =>
    obtain ⟨inner, hinner, rfl⟩ := toFrozen_optional_eq_ok.1 h
    have htest := eq_self_iff_isFixed hinner
    split
    · next hsame => exact hsame ▸ .same (isFixed_optional_iff.2 (htest.1 hsame))
    · next hother => exact .nullCheck (mt htest.2 hother) (ih hinner)

theorem toFrozen_of_byType (h : ByType scope input type text) :
    (Speller.plain scope).toFrozen input type = .ok text := by
  induction h with
  | same hfixed => exact toFrozen_of_isFixed hfixed _
  | toUtc => exact toFrozen_primitive_eq_ok.2 (if_pos rfl)
  | toFrozen hlookup hstruct => exact toFrozen_record_eq_ok.2 ⟨_, hlookup, if_pos hstruct⟩
  | copy hfixed => exact toFrozen_array_eq_ok.2 ⟨"it", toFrozen_of_isFixed hfixed "it", if_pos rfl⟩
  | mappedCopy hfixed _ ih =>
    exact toFrozen_array_eq_ok.2 ⟨_, ih, if_neg (mt (eq_self_iff_isFixed ih).1 hfixed)⟩
  | keyedCopy hfixed haccess =>
    exact toFrozen_keyedArray_eq_ok.2 ⟨"it", _, toFrozen_of_isFixed hfixed "it",
      haccess, if_pos rfl⟩
  | keyedMappedCopy hfixed _ haccess ih =>
    exact toFrozen_keyedArray_eq_ok.2 ⟨_, _, ih, haccess,
      if_neg (mt (eq_self_iff_isFixed ih).1 hfixed)⟩
  | nullCheck hfixed _ ih =>
    exact toFrozen_optional_eq_ok.2 ⟨_, ih, if_neg (mt (eq_self_iff_isFixed ih).1 hfixed)⟩

/-- Comparing texts and looking at the type come to the same. -/
theorem toFrozen_eq_ok_iff :
    (Speller.plain scope).toFrozen input type = .ok text ↔ ByType scope input type text :=
  ⟨byType_of_toFrozen, toFrozen_of_byType⟩

/-! ## Resolved types -/

/-- A fixed type is spelt alike for what a constructor is given and for what it keeps. -/
theorem IsFixed.dartType_eq (h : IsFixed scope type) :
    dartType scope type .initializer = dartType scope type .frozen :=
  dartType_congr ((spell_initializer none type).trans (spell_eq_of_passive (isPassive_iff.2 h)))

/-- Every expression of a type whose records are there is converted, in a session as afresh.  The
conversion is what the type asks for, at every depth: a mapping and a null check are left out only
where the type of the items or within the optional type is fixed.  The expression stays as it is
exactly if the type is fixed, and then the type that it has is the frozen one. -/
theorem conversion_skipped_iff (hparts : ∀ part ∈ type.keyParts, IsText part)
    (hfound : ∀ key ∈ type.recordKeys, ∃ record, scope.records.lookup key = some record)
    (input : String) :
    ∃ text, ConvertedTo scope input type text ∧ ByType scope input type text ∧
      (text = input ↔ IsFixed scope type) ∧
      (IsFixed scope type → dartType scope type .initializer = dartType scope type .frozen) := by
  obtain ⟨text, htext⟩ := exists_toFrozen_of_found hparts hfound input
  exact ⟨text, .of_fresh hparts htext, toFrozen_eq_ok_iff.1 htext, eq_self_iff_isFixed htext,
    IsFixed.dartType_eq⟩

/-- The roles that a team knows, each of which may be missing: they are copied, but not converted
one by one. -/
def rolesType : Ty := .optional (.array (.optional (.record roleRecord.key)))

theorem roles_conversion :
    (∃ text, ConvertedTo teamScope "it" rolesType text ∧ text ≠ "it" ∧
      text = "(it != null) ? _soia.internal__frozenCopy(it) : null") ∧
    ∃ text, ConvertedTo teamScope "it" (.optional (.record roleRecord.key)) text ∧ text = "it" ∧
      dartType teamScope (.optional (.record roleRecord.key)) .initializer =
        .ok "_lib_user.User_Role?" := by
  have hparts : ∀ part ∈ rolesType.keyParts, IsText part := by simp [rolesType, Ty.keyParts]
  have hfound : ∀ key ∈ rolesType.recordKeys, ∃ record,
      teamScope.records.lookup key = some record := by
    intro key hkey
    obtain rfl : key = roleRecord.key := by simpa [rolesType, Ty.recordKeys] using hkey
    exact ⟨roleRecord, rfl⟩
  have hrole : IsFixed teamScope (.optional (.record roleRecord.key)) :=
    .enum rfl (show teamScope.records.lookup roleRecord.key = some roleRecord from rfl) rfl
  constructor
  · obtain ⟨text, htext, -, hsame, -⟩ := conversion_skipped_iff hparts hfound "it"
    refine ⟨text, htext, ?_, ?_⟩
    · rw [Ne, hsame, ← isPassive_iff]
      exact id
    · exact Except.ok.inj (htext.fresh.symm.trans rfl)
  · obtain ⟨text, htext, -, hsame, hspelt⟩ :=
      @conversion_skipped_iff teamScope (.optional (.record roleRecord.key)) hparts hfound "it"
    exact ⟨text, htext, hsame.2 hrole, (hspelt hrole).trans rfl⟩

end DartRecords.Dart
