import DartRecords.Proofs.FrozenConversion

/-!
# Types in several flavours

A type is spelt in five flavours, with or without all structs frozen.  This module says where these
spellings are the same and where there is none.

* A value that a constructor is given is spelt as one that is maybe mutable, and a frozen one in one
  way only.  A type without keys is spelt alike if it is frozen and if only its structs are
  (`SpeltFrozen.spell_eq`).
* Arrays and structs have no discriminant.  Optional types pass the question on to the type within
  them, while the items and the keys of an array are never asked for theirs, so that the type within
  all optional ones decides (`spell_kind_of_lacksKind`, `exists_spell_kind`).
-/

namespace DartRecords.Schema.Ty

/-- Whether an array with keys occurs in the type. -/
def hasKeys : Ty → Bool
  | .primitive _ => false
  | .record _ => false
  | .array item => item.hasKeys
  | .keyedArray .. => true
  | .optional other => other.hasKeys

/-- The type within all the optional types around it. -/
def withoutOptional : Ty → Ty
  | .primitive p => .primitive p
  | .record key => .record key
  | .array item => .array item
  | .keyedArray item path keyType => .keyedArray item path keyType
  | .optional other => other.withoutOptional

end DartRecords.Schema.Ty

namespace DartRecords.Dart

open Schema (Record Ty)

variable {scope : Scope} {flavor : Flavor} {allFrozen : Option Bool} {type : Ty}

/-! ## Spellings, faults included -/

theorem spell_record_eq (key : String) :
    spell scope flavor allFrozen (.record key) = (do
      let record ← scope.record key
      let name ← scope.className record
      recordType record name flavor allFrozen) := by
  change (lift (scope.record key) >>= fun record => scope.className record >>= fun name =>
    lift (recordType record name flavor allFrozen)) = _
  simp only [lift_eq]

theorem spell_optional_eq (other : Ty) :
    spell scope flavor allFrozen (.optional other) =
      (spell scope flavor allFrozen other).map (· ++ "?") := by
  change (spell scope flavor allFrozen other >>= fun spelt => pure (spelt ++ "?")) = _
  cases spell scope flavor allFrozen other <;> rfl

/-! ## Flavours that agree -/

/-- The type in the flavour is spelt as if it were frozen. -/
inductive SpeltFrozen (type : Ty) : Flavor → Option Bool → Prop where
  | frozen (allFrozen : Option Bool) : SpeltFrozen type .frozen allFrozen
  /-- All structs in the type are frozen, and no array shows the type of its keys. -/
  | allFrozen : type.hasKeys = false → SpeltFrozen type .maybeMutable (some true)

/-- Frozen, a struct and an enum alike are spelt as their class. -/
theorem recordType_frozen (record : Record) (name : String) (allFrozen : Option Bool) :
    recordType record name .frozen allFrozen = .ok name := by
  cases hstruct : record.isStruct with
  | true => exact recordType_of_frozen hstruct (.inl rfl)
  | false => exact recordType_of_enum hstruct (by decide)

namespace SpeltFrozen

theorem recordType_eq (h : SpeltFrozen type flavor allFrozen) (record : Record) (name : String) :
    recordType record name flavor allFrozen = .ok name := by
  cases h with
  | frozen => exact recordType_frozen record name allFrozen
  | allFrozen =>
    cases hstruct : record.isStruct with
    | true => exact recordType_of_frozen hstruct (.inr rfl)
    | false => exact recordType_of_enum hstruct (by decide)

/-- The types that are spelt as if they were frozen have one spelling. -/
theorem spell_eq (h : SpeltFrozen type flavor allFrozen) :
    spell scope flavor allFrozen type = spell scope .frozen none type := by
  induction type generalizing flavor allFrozen with
  | primitive p => rfl
  | record key => simp only [spell_record_eq, h.recordType_eq, recordType_frozen]
  | optional other ih =>
    have hother : SpeltFrozen other flavor allFrozen := by
      cases h with
      | frozen => exact .frozen _
      | allFrozen hkeys => exact .allFrozen hkeys
    rw [spell_optional_eq, spell_optional_eq, ih hother]
  | array item ih =>
    -- Frozen or not, the items are in the flavour of the array.
    cases h with
    | frozen =>
      change (spell scope .frozen allFrozen item >>= _) = spell scope .frozen none item >>= _
      rw [ih (.frozen allFrozen)]
    | allFrozen hkeys =>
      change (spell scope .maybeMutable (some true) item >>= _) =
        spell scope .frozen none item >>= _
      rw [ih (.allFrozen hkeys)]
  | keyedArray item path keyType ih =>
    cases h with
    | frozen =>
      change (spell scope .frozen allFrozen item >>= _) = spell scope .frozen none item >>= _
      rw [ih (.frozen allFrozen)]
    | allFrozen hkeys => cases hkeys

end SpeltFrozen

theorem dartType_congr {flavor' : Flavor} {allFrozen' : Option Bool}
    (h : spell scope flavor allFrozen type = spell scope flavor' allFrozen' type) :
    dartType scope type flavor allFrozen = dartType scope type flavor' allFrozen' := by
  rw [dartType, dartType, h]

/-- Whatever the records are and whether or not the type can be spelt: what a constructor is given
has the type of what is maybe mutable, a frozen type does not depend on whether all structs are
frozen, and without keys it is that of what is maybe mutable with all structs frozen.  A session
that remembers spellings of the file answers the same. -/
theorem flavors_agree (scope : Scope) (type : Ty) (allFrozen : Option Bool) :
    dartType scope type .initializer allFrozen = dartType scope type .maybeMutable allFrozen ∧
    dartType scope type .frozen allFrozen = dartType scope type .frozen none ∧
    (type.hasKeys = false →
      dartType scope type .maybeMutable (some true) = dartType scope type .frozen none) ∧
    ∀ flavor names, Gives (Recalls scope names) (Recalls scope names)
      (Session.dartType scope type flavor allFrozen) (dartType scope type flavor allFrozen) := by
  refine ⟨dartType_congr (spell_initializer allFrozen type), dartType_congr ?_, fun hkeys => ?_,
    fun flavor names => gives_dartType type flavor allFrozen⟩
  · exact (SpeltFrozen.frozen allFrozen).spell_eq
  · exact dartType_congr (SpeltFrozen.allFrozen hkeys).spell_eq

/-- The users of a team, some of whom may not be known. -/
def membersType : Ty := .array (.optional (.record userRecord.key))

theorem members_flavors_agree : membersType.hasKeys = false ∧
    dartType teamScope membersType .initializer none =
      .ok "_core.Iterable<_lib_user.User_orMutable?>" ∧
    dartType teamScope membersType .frozen (some false) = .ok "_core.Iterable<_lib_user.User?>" ∧
    dartType teamScope membersType .maybeMutable (some true) =
      .ok "_core.Iterable<_lib_user.User?>" := by
  obtain ⟨hinitializer, -⟩ := flavors_agree teamScope membersType none
  obtain ⟨-, hfrozen, hkeyless, -⟩ := flavors_agree teamScope membersType (some false)
  exact ⟨rfl, hinitializer.trans rfl, hfrozen.trans rfl, (hkeyless rfl).trans rfl⟩

/-- With keys the last two differ. -/
example : dartType teamScope teamType .maybeMutable (some true) ≠
      dartType teamScope teamType .frozen none := by
  decide

/-! ## Flavours that a type does not have -/

/-- The fault is that a type has no spelling in a flavour. -/
def Error.IsInvalidFlavor : Error → Prop
  | .structWithoutFlavor _ _ => True
  | .arrayWithoutFlavor _ => True
  | .schema _ => False
  | .mismatch _ => False
  | .unresolvedType => False
  | .unbalanced _ => False

/-- The type, which is not an optional one, has no discriminant: it is an array, or a struct that is
not to be taken as frozen. -/
def LacksKind (scope : Scope) (allFrozen : Option Bool) : Ty → Prop
  | .primitive _ => False
  | .record key =>
    (∃ record, scope.records.lookup key = some record ∧ record.isStruct = true) ∧
      allFrozen ≠ some true
  | .array _ => True
  | .keyedArray .. => True
  | .optional _ => False

/-- Where a type lacks a discriminant, asking for it is a fault. -/
theorem spell_kind_of_lacksKind (h : ResolvedType scope.records type)
    (hlacks : LacksKind scope allFrozen type.withoutOptional) :
    ∃ e, spell scope .kind allFrozen type = .error e ∧ e.IsInvalidFlavor := by
  induction type with
  | primitive p => cases hlacks
  | record key =>
    obtain ⟨⟨record, hlookup, hstruct⟩, hfrozen⟩ := hlacks
    obtain ⟨found, hfound, hnamed⟩ := h.found key List.mem_cons_self
    cases hlookup.symm.trans hfound
    obtain ⟨name, hname⟩ := exists_className hnamed scope
    have htype : recordType record name .kind allFrozen =
        .error (.structWithoutFlavor name .kind) := by
      simp [recordType, hstruct, hfrozen]
    refine ⟨.structWithoutFlavor name .kind, ?_, trivial⟩
    rw [spell_record_eq, record_eq_ok_iff.2 hlookup]
    change (scope.className record >>= _) = _
    rw [hname]
    exact htype
  | array item => exact ⟨.arrayWithoutFlavor .kind, rfl, trivial⟩
  | keyedArray item path keyType => exact ⟨.arrayWithoutFlavor .kind, rfl, trivial⟩
  | optional other ih =>
    obtain ⟨e, he, hinvalid⟩ := ih ⟨h.parts, h.found⟩ hlacks
    exact ⟨e, by rw [spell_optional_eq, he]; rfl, hinvalid⟩

/-- Where a type does not lack a discriminant, asking for it gives a spelling. -/
theorem exists_spell_kind (h : ResolvedType scope.records type)
    (hlacks : ¬LacksKind scope allFrozen type.withoutOptional) :
    ∃ text, spell scope .kind allFrozen type = .ok text := by
  induction type with
  | primitive p => exact ⟨_, spell_primitive p⟩
  | record key =>
    obtain ⟨record, hlookup, hnamed⟩ := h.found key List.mem_cons_self
    obtain ⟨name, hname⟩ := exists_className hnamed scope
    have htype : ∃ text, recordType record name .kind allFrozen = .ok text := by
      cases hstruct : record.isStruct with
      | true =>
        have hfrozen : allFrozen = some true := by
          by_contra hother
          exact hlacks ⟨⟨record, hlookup, hstruct⟩, hother⟩
        exact ⟨name, recordType_of_frozen hstruct (.inr hfrozen)⟩
      | false => exact ⟨name ++ "_kind", by simp [recordType, hstruct]⟩
    obtain ⟨text, htext⟩ := htype
    exact ⟨text, spell_record_eq_ok.2 ⟨record, name, hlookup, hname, htext⟩⟩
  | array item => exact absurd trivial hlacks
  | keyedArray item path keyType => exact absurd trivial hlacks
  | optional other ih =>
    obtain ⟨text, htext⟩ := ih ⟨h.parts, h.found⟩ hlacks
    exact ⟨text ++ "?", spell_optional_eq_ok.2 ⟨text, htext, rfl⟩⟩

/-- A resolved type is refused for its flavour exactly if a discriminant is asked for, and the type
within all optional ones is an array, or a struct while not all structs are frozen.  In every other
case it has a spelling.  A session that remembers spellings of the file answers the same. -/
theorem invalid_flavor_iff (h : ResolvedType scope.records type) (flavor : Flavor)
    (allFrozen : Option Bool) :
    ((∃ e, dartType scope type flavor allFrozen = .error e ∧ e.IsInvalidFlavor) ↔
      flavor = .kind ∧ LacksKind scope allFrozen type.withoutOptional) ∧
    (¬(flavor = .kind ∧ LacksKind scope allFrozen type.withoutOptional) →
      ∃ text, dartType scope type flavor allFrozen = .ok text) ∧
    ∀ names, Gives (Recalls scope names) (Recalls scope names)
      (Session.dartType scope type flavor allFrozen) (dartType scope type flavor allFrozen) := by
  have hspelt : ¬(flavor = .kind ∧ LacksKind scope allFrozen type.withoutOptional) →
      ∃ text, dartType scope type flavor allFrozen = .ok text := by
    intro hother
    rw [h.dartType_eq]
    by_cases hkind : flavor = .kind
    · subst hkind
      exact exists_spell_kind h fun hlacks => hother ⟨rfl, hlacks⟩
    · exact exists_spell h hkind allFrozen
  refine ⟨⟨?_, ?_⟩, hspelt, fun names => gives_dartType type flavor allFrozen⟩
  · rintro ⟨e, he, -⟩
    by_contra hother
    obtain ⟨text, htext⟩ := hspelt hother
    cases he.symm.trans htext
  · rintro ⟨rfl, hlacks⟩
    rw [h.dartType_eq]
    exact spell_kind_of_lacksKind h hlacks

/-- A user is a struct, and the users of a team by their role are an array. -/
theorem user_invalid_flavor : ResolvedType teamScope.records (.record userRecord.key) ∧
    (∃ e, dartType teamScope (.record userRecord.key) .kind none = .error e ∧ e.IsInvalidFlavor) ∧
    (∃ text, dartType teamScope (.record userRecord.key) .kind (some true) = .ok text) ∧
    ResolvedType teamScope.records teamType ∧
    ∃ e, dartType teamScope teamType .kind (some true) = .error e ∧ e.IsInvalidFlavor := by
  have huser : ResolvedType teamScope.records (.record userRecord.key) :=
    ResolvedType.item_of_keyed ⟨teamType_resolved.parts, teamType_resolved.found⟩
  have hloose := (invalid_flavor_iff huser .kind none).1.2 ⟨rfl, ⟨userRecord, rfl, rfl⟩, by decide⟩
  have hfrozen := (invalid_flavor_iff huser .kind (some true)).2.1 fun hlacks => hlacks.2.2 rfl
  have harray := (invalid_flavor_iff teamType_resolved .kind (some true)).1.2 ⟨rfl, trivial⟩
  exact ⟨huser, hloose, hfrozen, teamType_resolved, harray⟩

end DartRecords.Dart
