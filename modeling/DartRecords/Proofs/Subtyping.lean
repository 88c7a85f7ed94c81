import DartRecords.Proofs.Memory

/-!
# Subtyping between flavours

A struct becomes three Dart classes: the frozen one, the mutable one, and an interface `_orMutable`
of both.  A getter that the interface declares is overridden in the other two, so its type in their
flavours has to be a subtype of its type in the interface.

`IsSubtype` is the part of the subtyping of Dart that this rests on, as a relation between texts.
`Overrides` says which flavours override which, and `isSubtype_spell` that the spellings of a type
follow it: by induction on the type, for all flavours at once, since the items of an array are spelt
in another flavour than the array.
-/

namespace DartRecords.Dart

open Schema (Record Ty)

/-- The Dart type of one text is a subtype of the Dart type of another. -/
inductive IsSubtype (scope : Scope) : String → String → Prop
  | refl (a : String) : IsSubtype scope a a
  | trans {a b c : String} : IsSubtype scope a b → IsSubtype scope b c → IsSubtype scope a c
  /-- The frozen class of a struct implements its interface. -/
  | frozen {key name : String} {record : Record} :
      scope.records.lookup key = some record → record.isStruct = true →
      scope.className record = .ok name → IsSubtype scope name (name ++ "_orMutable")
  /-- So does the mutable one. -/
  | mutable {key name : String} {record : Record} :
      scope.records.lookup key = some record → record.isStruct = true →
      scope.className record = .ok name →
      IsSubtype scope (name ++ "_mutable") (name ++ "_orMutable")
  | iterable {a b : String} : IsSubtype scope a b →
      IsSubtype scope ("_core.Iterable<" ++ a ++ ">") ("_core.Iterable<" ++ b ++ ">")
  | optional {a b : String} : IsSubtype scope a b → IsSubtype scope (a ++ "?") (b ++ "?")
  | list (a : String) :
      IsSubtype scope ("_core.List<" ++ a ++ ">") ("_core.Iterable<" ++ a ++ ">")
  | keyed (a key : String) :
      IsSubtype scope ("_soia.KeyedIterable<" ++ a ++ ", " ++ key ++ ">")
        ("_core.Iterable<" ++ a ++ ">")

/-- A member in a flavour may override one that is maybe mutable.  Each flavour comes with whether
all structs in the type are frozen. -/
inductive Overrides : Flavor → Option Bool → Option Bool → Prop
  | same (allFrozen : Option Bool) : Overrides .maybeMutable allFrozen allFrozen
  | allFrozen (other : Option Bool) : Overrides .maybeMutable (some true) other
  | frozen (allFrozen other : Option Bool) : Overrides .frozen allFrozen other
  | mutable (allFrozen : Option Bool) : Overrides .mutable allFrozen allFrozen

variable {scope : Scope} {flavor : Flavor} {allFrozen other : Option Bool} {a b : String}

/-! ## Records -/

section RecordType

variable {record : Record} {name : String}

theorem recordType_of_enum (h : record.isStruct = false) (hflavor : flavor ≠ .kind) :
    recordType record name flavor allFrozen = .ok name := by
  simp [recordType, h, hflavor]

theorem recordType_of_frozen (h : record.isStruct = true)
    (hfrozen : flavor = .frozen ∨ allFrozen = some true) :
    recordType record name flavor allFrozen = .ok name := by
  simp [recordType, h, hfrozen]

theorem recordType_maybeMutable (h : record.isStruct = true) (hother : other ≠ some true) :
    recordType record name .maybeMutable other = .ok (name ++ "_orMutable") := by
  simp [recordType, h, hother]

theorem recordType_mutable (h : record.isStruct = true) (hother : other ≠ some true) :
    recordType record name .mutable other = .ok (name ++ "_mutable") := by
  simp [recordType, h, hother]

/-- The frozen class of a struct may override any member of the type that is maybe mutable. -/
theorem isSubtype_className {key : String} (hlookup : scope.records.lookup key = some record)
    (hstruct : record.isStruct = true) (hname : scope.className record = .ok name)
    (hb : recordType record name .maybeMutable other = .ok b) : IsSubtype scope name b := by
  by_cases hother : other = some true
  · rw [recordType_of_frozen hstruct (.inr hother)] at hb
    cases hb
    exact .refl _
  · rw [recordType_maybeMutable hstruct hother] at hb
    cases hb
    exact .frozen hlookup hstruct hname

theorem isSubtype_struct {key : String} (h : Overrides flavor allFrozen other)
    (hlookup : scope.records.lookup key = some record) (hstruct : record.isStruct = true)
    (hname : scope.className record = .ok name)
    (ha : recordType record name flavor allFrozen = .ok a)
    (hb : recordType record name .maybeMutable other = .ok b) : IsSubtype scope a b := by
  cases h with
  | same =>
    cases ha.symm.trans hb
    exact .refl a
  | allFrozen =>
    rw [recordType_of_frozen hstruct (.inr rfl)] at ha
    cases ha
    exact isSubtype_className hlookup hstruct hname hb
  | frozen =>
    rw [recordType_of_frozen hstruct (.inl rfl)] at ha
    cases ha
    exact isSubtype_className hlookup hstruct hname hb
  | mutable =>
    by_cases hfrozen : allFrozen = some true
    · rw [recordType_of_frozen hstruct (.inr hfrozen)] at ha
      cases ha
      exact isSubtype_className hlookup hstruct hname hb
    · rw [recordType_mutable hstruct hfrozen] at ha
      rw [recordType_maybeMutable hstruct hfrozen] at hb
      cases ha
      cases hb
      exact .mutable hlookup hstruct hname

theorem Overrides.ne_kind (h : Overrides flavor allFrozen other) : flavor ≠ .kind := by
  cases h <;> decide

theorem isSubtype_record {key : String} (h : Overrides flavor allFrozen other)
    (hlookup : scope.records.lookup key = some record) (hname : scope.className record = .ok name)
    (ha : recordType record name flavor allFrozen = .ok a)
    (hb : recordType record name .maybeMutable other = .ok b) : IsSubtype scope a b := by
  cases hstruct : record.isStruct with
  | true => exact isSubtype_struct h hlookup hstruct hname ha hb
  | false =>
    rw [recordType_of_enum hstruct h.ne_kind] at ha
    rw [recordType_of_enum hstruct (by decide)] at hb
    cases ha
    cases hb
    exact .refl _

end RecordType

/-! ## Arrays -/

/-- The items of an array that overrides another one override its items. -/
theorem Overrides.items {itemFlavor : Flavor} {shape : String}
    (h : Overrides flavor allFrozen other) (hshape : arrayShape flavor = .ok (itemFlavor, shape)) :
    Overrides itemFlavor allFrozen other := by
  cases h with
  | same => cases hshape; exact .same _
  | allFrozen => cases hshape; exact .allFrozen _
  | frozen => cases hshape; exact .frozen _ _
  | mutable => cases hshape; exact .same _

/-- An array in any flavour is one that can be iterated over. -/
theorem isSubtype_array {itemFlavor : Flavor} {shape : String}
    (hshape : arrayShape flavor = .ok (itemFlavor, shape)) (h : IsSubtype scope a b) :
    IsSubtype scope (shape ++ "<" ++ a ++ ">") ("_core.Iterable<" ++ b ++ ">") := by
  cases flavor with
  | kind => cases hshape
  | mutable => cases hshape; exact (IsSubtype.list a).trans h.iterable
  | frozen => cases hshape; exact h.iterable
  | initializer => cases hshape; exact h.iterable
  | maybeMutable => cases hshape; exact h.iterable

/-! ## All types -/

/-- The spelling of a type in a flavour is a subtype of its spelling in those that it overrides. -/
theorem isSubtype_spell {type : Ty} (h : Overrides flavor allFrozen other)
    (ha : spell scope flavor allFrozen type = .ok a)
    (hb : spell scope .maybeMutable other type = .ok b) : IsSubtype scope a b := by
  induction type generalizing flavor a b with
  | primitive p =>
    cases ha
    cases hb
    exact .refl _
  | record key =>
    obtain ⟨record, name, hlookup, hname, ha⟩ := spell_record_eq_ok.1 ha
    obtain ⟨record', name', hlookup', hname', hb⟩ := spell_record_eq_ok.1 hb
    cases hlookup.symm.trans hlookup'
    cases hname.symm.trans hname'
    exact isSubtype_record h hlookup hname ha hb
  | optional inner ih =>
    obtain ⟨innerA, hinnerA, rfl⟩ := spell_optional_eq_ok.1 ha
    obtain ⟨innerB, hinnerB, rfl⟩ := spell_optional_eq_ok.1 hb
    exact (ih h hinnerA hinnerB).optional
  | array item ih =>
    obtain ⟨itemFlavor, shape, itemA, hshape, hitemA, rfl⟩ := spell_array_eq_ok.1 ha
    obtain ⟨_, _, itemB, hshape', hitemB, rfl⟩ := spell_array_eq_ok.1 hb
    cases hshape'
    exact isSubtype_array hshape (ih (h.items hshape) hitemA hitemB)
  | keyedArray item path keyType ih =>
    obtain ⟨itemFlavor, shape, itemA, hshape, hitemA, ha⟩ := spell_keyedArray_eq_ok.1 ha
    obtain ⟨_, _, itemB, hshape', hitemB, hb⟩ := spell_keyedArray_eq_ok.1 hb
    cases hshape'
    have hitem := ih (h.items hshape) hitemA hitemB
    rw [if_neg (by decide)] at hb
    subst hb
    by_cases hfrozen : flavor = .frozen
    · rw [if_pos hfrozen] at ha
      obtain ⟨key, -, rfl⟩ := ha
      exact (IsSubtype.keyed itemA _).trans hitem.iterable
    · rw [if_neg hfrozen] at ha
      subst ha
      exact isSubtype_array hshape hitem

/-- The text is the Dart type of a type: it is what is computed afresh, and what any session answers
whose remembered spellings are those of the file. -/
structure WrittenAs (scope : Scope) (type : Ty) (flavor : Flavor) (allFrozen : Option Bool)
    (text : String) : Prop where
  fresh : dartType scope type flavor allFrozen = .ok text
  remembered : ∀ names, Gives (Recalls scope names) (Recalls scope names)
    (Session.dartType scope type flavor allFrozen) (.ok text)

theorem ResolvedType.exists_writtenAs {type : Ty} (h : ResolvedType scope.records type)
    (hflavor : flavor ≠ .kind) (allFrozen : Option Bool) :
    ∃ text, WrittenAs scope type flavor allFrozen text := by
  obtain ⟨text, htext⟩ := exists_spell h hflavor allFrozen
  rw [← h.dartType_eq] at htext
  exact ⟨text, htext, fun names => htext ▸ gives_dartType type flavor allFrozen⟩

/-- Overriding members have subtypes. -/
theorem WrittenAs.isSubtype {type : Ty} (hresolved : ResolvedType scope.records type)
    (ha : WrittenAs scope type flavor allFrozen a) (hb : WrittenAs scope type .maybeMutable other b)
    (h : Overrides flavor allFrozen other) : IsSubtype scope a b :=
  isSubtype_spell h (hresolved.dartType_eq _ _ ▸ ha.fresh) (hresolved.dartType_eq _ _ ▸ hb.fresh)

/-- A resolved type has a spelling in each flavour of the classes of a struct, and their spellings
are valid overrides: the frozen one of the one with all structs frozen, which in turn is one of the
interface's, and the mutable one of the interface's. -/
theorem flavors_are_overrides {type : Ty} (h : ResolvedType scope.records type) :
    (∃ frozen allFrozen loose, WrittenAs scope type .frozen none frozen ∧
      WrittenAs scope type .maybeMutable (some true) allFrozen ∧
      WrittenAs scope type .maybeMutable none loose ∧
      IsSubtype scope frozen allFrozen ∧ IsSubtype scope allFrozen loose) ∧
    ∀ f, ∃ mutable loose, WrittenAs scope type .mutable f mutable ∧
      WrittenAs scope type .maybeMutable f loose ∧ IsSubtype scope mutable loose := by
  constructor
  · obtain ⟨frozen, hfrozen⟩ := h.exists_writtenAs (show Flavor.frozen ≠ .kind by decide) none
    obtain ⟨tight, htight⟩ :=
      h.exists_writtenAs (show Flavor.maybeMutable ≠ .kind by decide) (some true)
    obtain ⟨loose, hloose⟩ := h.exists_writtenAs (show Flavor.maybeMutable ≠ .kind by decide) none
    exact ⟨frozen, tight, loose, hfrozen, htight, hloose, hfrozen.isSubtype h htight (.frozen _ _),
      htight.isSubtype h hloose (.allFrozen _)⟩
  · intro f
    obtain ⟨mutable, hmutable⟩ := h.exists_writtenAs (show Flavor.mutable ≠ .kind by decide) f
    obtain ⟨loose, hloose⟩ := h.exists_writtenAs (show Flavor.maybeMutable ≠ .kind by decide) f
    exact ⟨mutable, loose, hmutable, hloose, hmutable.isSubtype h hloose (.mutable f)⟩

/-- A user, in another module than the team. -/
def userRecord : Record where
  key := "user.soia:User"
  name := .str "User"
  kind := .struct
  ancestors := [.str "User"]
  modulePath := .str "user.soia"

/-- What a user may do. -/
def roleRecord : Record where
  key := "user.soia:User.Role"
  name := .str "Role"
  kind := .enum
  ancestors := [.str "User", .str "Role"]
  modulePath := .str "user.soia"

def teamScope : Scope where
  records := [(userRecord.key, userRecord), (roleRecord.key, roleRecord)]
  origin := .str "team.soia"

/-- The users of a team by their role, if it has any. -/
def teamType : Ty :=
  .optional (.keyedArray (.record userRecord.key) [.str "role", .str "kind"]
    (.record roleRecord.key))

theorem teamType_resolved : ResolvedType teamScope.records teamType where
  parts := by simp [teamType, Ty.keyParts, IsText]
  found := by
    have huser : TextNamed userRecord := ⟨by simp [userRecord, IsText], _, rfl⟩
    have hrole : TextNamed roleRecord := ⟨by simp [roleRecord, IsText], _, rfl⟩
    intro key hkey
    obtain rfl | rfl : key = userRecord.key ∨ key = roleRecord.key := by
      simpa [teamType, Ty.recordKeys] using hkey
    · exact ⟨userRecord, rfl, huser⟩
    · exact ⟨roleRecord, rfl, hrole⟩

theorem team_flavors_are_overrides :
    IsSubtype teamScope "_soia.KeyedIterable<_lib_user.User, _lib_user.User_Role_kind>?"
      "_core.Iterable<_lib_user.User>?" ∧
    IsSubtype teamScope "_core.Iterable<_lib_user.User>?"
      "_core.Iterable<_lib_user.User_orMutable>?" ∧
    IsSubtype teamScope "_core.List<_lib_user.User_orMutable>?"
      "_core.Iterable<_lib_user.User_orMutable>?" := by
  obtain ⟨⟨frozen, tight, loose, hfrozen, htight, hloose, hfirst, hsecond⟩, hmutable⟩ :=
    flavors_are_overrides teamType_resolved
  obtain ⟨mutable, loose', hmutable, hloose', hthird⟩ := hmutable none
  cases hfrozen.fresh
  cases htight.fresh
  cases hloose.fresh
  cases hmutable.fresh
  cases hloose'.fresh
  exact ⟨hfirst, hsecond, hthird⟩

end DartRecords.Dart
