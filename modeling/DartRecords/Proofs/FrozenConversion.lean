import DartRecords.Proofs.Subtyping
import DartRecords.Proofs.WellFormed

/-!
# Conversion to frozen values

A value that is passed to the constructor of a frozen class may be mutable in part.  The conversion
that the constructor makes has to give a value of the frozen type, whatever the expression that it
is applied to.

`HasType` has the typing rules of the runtime library that this rests on, as a relation between
texts: the rules look at no more than the text of an expression and the texts of types.  Only the
type of the keys of an array cannot be seen in the expression that copies it, so the rules for these
copies are about the arrays of a schema type.  `toFrozen_typed` says that they derive the frozen
type of every conversion.

The conversion compares texts to find out whether a part needs to be converted.  `eq_self_iff` says
that the comparison finds exactly the types of `IsPassive`, and `spell_eq_of_passive` that the
values of these are spelt alike whether frozen or not.
-/

namespace DartRecords.Dart

open Schema (Record Ty)

/-! ## Typing rules -/

/-- An array whose items are found by a key. -/
structure KeyedArray where
  item : Ty
  path : List Json
  keyType : Ty

/-- The arrays with keys that the values of a type have in them. -/
def keyedArrays : Ty → List KeyedArray
  | .primitive _ => []
  | .record _ => []
  | .array item => keyedArrays item
  | .keyedArray item path keyType => ⟨item, path, keyType⟩ :: keyedArrays item
  | .optional other => keyedArrays other

/-- What is written about an array with keys: the type of its items, the access of their keys, and
the spelt type of the keys. -/
structure KeyedArray.Written (scope : Scope) (array : KeyedArray) (flavor : Flavor)
    (itemType access key : String) : Prop where
  items : spell scope flavor none array.item = .ok itemType
  access : (Speller.plain scope).keyAccess array.path = .ok access
  key : ∃ spelt, spell scope .frozen none array.keyType = .ok spelt ∧
    key = keyArgument array.keyType spelt

/-- Under assumptions about the types of some texts, the Dart expression of a text has the Dart type
of another one, where arrays with keys are among those given.  The body of a function knows no more
than the type of its parameter, and the body of a null check no more than the type of what is
checked. -/
inductive HasType (scope : Scope) (arrays : List KeyedArray) :
    List (String × String) → String → String → Prop
  | assumed {Γ : List (String × String)} {e a : String} : (e, a) ∈ Γ → HasType scope arrays Γ e a
  | toUtc {Γ : List (String × String)} {e : String} :
      HasType scope arrays Γ e "_core.DateTime" →
      HasType scope arrays Γ (e ++ ".toUtc()") "_core.DateTime"
  /-- The interface of the classes of a struct has the conversion to the frozen one. -/
  | toFrozen {Γ : List (String × String)} {e key name : String} {record : Record} :
      scope.records.lookup key = some record → record.isStruct = true →
      scope.className record = .ok name → HasType scope arrays Γ e (name ++ "_orMutable") →
      HasType scope arrays Γ (e ++ ".toFrozen()") name
  | frozenCopy {Γ : List (String × String)} {e a : String} :
      HasType scope arrays Γ e ("_core.Iterable<" ++ a ++ ">") →
      HasType scope arrays Γ ("_soia.internal__frozenCopy(" ++ e ++ ")")
        ("_core.Iterable<" ++ a ++ ">")
  | frozenMappedCopy {Γ : List (String × String)} {e a body b : String} :
      HasType scope arrays Γ e ("_core.Iterable<" ++ a ++ ">") →
      HasType scope arrays [("it", a)] body b →
      HasType scope arrays Γ
        ("_soia.internal__frozenMappedCopy(" ++ e ++ ", (it) => " ++ body ++ ")")
        ("_core.Iterable<" ++ b ++ ">")
  | keyedCopy {Γ : List (String × String)} {array : KeyedArray} {e a access key : String} :
      array ∈ arrays → array.Written scope .maybeMutable a access key →
      HasType scope arrays Γ e ("_core.Iterable<" ++ a ++ ">") →
      HasType scope arrays Γ
        ("_soia.internal__keyedCopy(" ++ e ++ ", \"" ++ access ++ "\", (it) => it." ++
          access ++ ")")
        ("_soia.KeyedIterable<" ++ a ++ ", " ++ key ++ ">")
  | keyedMappedCopy {Γ : List (String × String)} {array : KeyedArray}
      {e a access key body b : String} :
      array ∈ arrays → array.Written scope .maybeMutable a access key →
      HasType scope arrays Γ e ("_core.Iterable<" ++ a ++ ">") →
      HasType scope arrays [("it", a)] body b →
      HasType scope arrays Γ
        ("_soia.internal__keyedMappedCopy(" ++ e ++ ", \"" ++ access ++ "\", (it) => it." ++ access
          ++ ", (it) => " ++ body ++ ")")
        ("_soia.KeyedIterable<" ++ b ++ ", " ++ key ++ ">")
  | nullCheck {Γ : List (String × String)} {e a body b : String} :
      HasType scope arrays Γ e (a ++ "?") → HasType scope arrays [(e, a)] body b →
      HasType scope arrays Γ ("(" ++ e ++ " != null) ? " ++ body ++ " : null") (b ++ "?")

variable {scope : Scope}

/-! ## The conversion of one kind of type at a time -/

section Convert

variable {input text : String}

theorem toFrozen_primitive_eq_ok {p : Schema.Primitive} :
    (Speller.plain scope).toFrozen input (.primitive p) = .ok text ↔
      (if p = .timestamp then input ++ ".toUtc()" else input) = text := by
  change (pure _ : Except Error String) = .ok text ↔ _
  simp only [pure, Except.pure, Except.ok.injEq]

theorem toFrozen_record_eq_ok {key : String} :
    (Speller.plain scope).toFrozen input (.record key) = .ok text ↔
      ∃ record, scope.records.lookup key = some record ∧
        (if record.isStruct then input ++ ".toFrozen()" else input) = text := by
  change (lift (scope.record key) >>= fun record =>
    pure (if record.isStruct then input ++ ".toFrozen()" else input)) = Except.ok text ↔ _
  simp only [bind_eq_ok_iff, lift_eq, record_eq_ok_iff, pure, Except.pure, Except.ok.injEq]

theorem toFrozen_optional_eq_ok {other : Ty} :
    (Speller.plain scope).toFrozen input (.optional other) = .ok text ↔
      ∃ inner, (Speller.plain scope).toFrozen input other = .ok inner ∧
        (if inner = input then inner else "(" ++ input ++ " != null) ? " ++ inner ++ " : null") =
          text := by
  change ((Speller.plain scope).toFrozen input other >>= fun inner =>
    if inner = input then pure inner
    else pure ("(" ++ input ++ " != null) ? " ++ inner ++ " : null")) = .ok text ↔ _
  simp only [bind_eq_ok_iff, pure, Except.pure, ← apply_ite Except.ok, Except.ok.injEq]

theorem toFrozen_array_eq_ok {item : Ty} :
    (Speller.plain scope).toFrozen input (.array item) = .ok text ↔
      ∃ each, (Speller.plain scope).toFrozen "it" item = .ok each ∧
        (if each = "it" then "_soia.internal__frozenCopy(" ++ input ++ ")"
          else "_soia.internal__frozenMappedCopy(" ++ input ++ ", (it) => " ++ each ++ ")") =
            text := by
  change ((Speller.plain scope).toFrozen "it" item >>= fun each =>
    if each = "it" then pure ("_soia.internal__frozenCopy(" ++ input ++ ")")
    else pure ("_soia.internal__frozenMappedCopy(" ++ input ++ ", (it) => " ++ each ++ ")"))
      = .ok text ↔ _
  simp only [bind_eq_ok_iff, pure, Except.pure, ← apply_ite Except.ok, Except.ok.injEq]

theorem toFrozen_keyedArray_eq_ok {item keyType : Ty} {path : List Json} :
    (Speller.plain scope).toFrozen input (.keyedArray item path keyType) = .ok text ↔
      ∃ each access, (Speller.plain scope).toFrozen "it" item = .ok each ∧
        (Speller.plain scope).keyAccess path = .ok access ∧
        (if each = "it" then
          "_soia.internal__keyedCopy(" ++ input ++ ", \"" ++ access ++ "\", (it) => it." ++
            access ++ ")"
        else
          "_soia.internal__keyedMappedCopy(" ++ input ++ ", \"" ++ access ++ "\", (it) => it."
            ++ access ++ ", (it) => " ++ each ++ ")") = text := by
  change ((Speller.plain scope).toFrozen "it" item >>= fun each =>
    (Speller.plain scope).keyAccess path >>= fun access =>
      if each = "it" then
        pure ("_soia.internal__keyedCopy(" ++ input ++ ", \"" ++ access ++
          "\", (it) => it." ++ access
          ++ ")")
      else
        pure ("_soia.internal__keyedMappedCopy(" ++ input ++ ", \"" ++ access ++ "\", (it) => it."
          ++ access ++ ", (it) => " ++ each ++ ")")) = .ok text ↔ _
  simp only [bind_eq_ok_iff, pure, Except.pure, ← apply_ite Except.ok, Except.ok.injEq,
    exists_and_left]

end Convert

/-! ## Parts that are frozen already -/

/-- The items of an array are maybe mutable, and so is a value that a constructor is given. -/
theorem spell_initializer (allFrozen : Option Bool) (type : Ty) :
    spell scope .initializer allFrozen type = spell scope .maybeMutable allFrozen type := by
  induction type with
  | primitive p => rfl
  | record key => rfl
  | array item => rfl
  | keyedArray item path keyType => rfl
  | optional other ih =>
    change (spell scope .initializer allFrozen other >>= _) =
      spell scope .maybeMutable allFrozen other >>= _
    rw [ih]

/-- The values of the type are frozen as they are: plain values other than points in time, enums,
and optional ones of these. -/
def IsPassive (scope : Scope) : Ty → Prop
  | .primitive p => p ≠ .timestamp
  | .record key => ∃ record, scope.records.lookup key = some record ∧ record.isStruct = false
  | .array _ => False
  | .keyedArray .. => False
  | .optional other => IsPassive scope other

theorem enclosed_ne_self {before : String} (h : 0 < before.length) (input after : String) :
    before ++ (input ++ after) ≠ input := by
  intro heq
  have hlength := congrArg String.length heq
  rw [String.length_append, String.length_append] at hlength
  omega

/-- A conversion changes nothing exactly if the values are frozen as they are. -/
theorem eq_self_iff {type : Ty} {input text : String}
    (h : (Speller.plain scope).toFrozen input type = .ok text) :
    text = input ↔ IsPassive scope type := by
  induction type generalizing input text with
  | primitive p =>
    rw [← toFrozen_primitive_eq_ok.1 h, IsPassive]
    by_cases hp : p = .timestamp
    · simp [hp]
    · simp [hp]
  | record key =>
    obtain ⟨record, hlookup, rfl⟩ := toFrozen_record_eq_ok.1 h
    rw [IsPassive, hlookup]
    cases hstruct : record.isStruct with
    | true => simp [hstruct]
    | false => simp [hstruct]
  | array item ih =>
    obtain ⟨each, -, rfl⟩ := toFrozen_array_eq_ok.1 h
    refine iff_of_false ?_ id
    split
    · simp only [String.append_assoc]
      exact enclosed_ne_self (by decide) _ _
    · simp only [String.append_assoc]
      exact enclosed_ne_self (by decide) _ _
  | keyedArray item path keyType ih =>
    obtain ⟨each, access, -, -, rfl⟩ := toFrozen_keyedArray_eq_ok.1 h
    refine iff_of_false ?_ id
    split
    · simp only [String.append_assoc]
      exact enclosed_ne_self (by decide) _ _
    · simp only [String.append_assoc]
      exact enclosed_ne_self (by decide) _ _
  | optional other ih =>
    obtain ⟨inner, hinner, rfl⟩ := toFrozen_optional_eq_ok.1 h
    rw [IsPassive, ← ih hinner]
    by_cases hsame : inner = input
    · rw [if_pos hsame]
    · rw [if_neg hsame]
      refine iff_of_false ?_ hsame
      simp only [String.append_assoc]
      exact enclosed_ne_self (by decide) _ _

/-- Values that are frozen as they are have one spelling. -/
theorem spell_eq_of_passive {type : Ty} (h : IsPassive scope type) :
    spell scope .maybeMutable none type = spell scope .frozen none type := by
  induction type with
  | primitive p => rfl
  | record key =>
    obtain ⟨record, hlookup, henum⟩ := h
    have hspell (flavor : Flavor) (hflavor : flavor ≠ .kind) :
        spell scope flavor none (.record key) = scope.className record >>= pure := by
      change (lift (scope.record key) >>= fun record => scope.className record >>= fun name =>
        lift (recordType record name flavor none)) = _
      rw [record_eq_ok_iff.2 hlookup]
      change (scope.className record >>= fun name => lift (recordType record name flavor none)) = _
      simp only [recordType_of_enum henum hflavor]
      rfl
    rw [hspell _ (by decide), hspell _ (by decide)]
  | array item => cases h
  | keyedArray item path keyType => cases h
  | optional other ih =>
    change (spell scope .maybeMutable none other >>= _) = spell scope .frozen none other >>= _
    rw [ih h]

/-- Where the conversion of an item is left out, the items are frozen as they are. -/
theorem eq_of_toFrozen_eq {type : Ty} {input a b : String}
    (h : (Speller.plain scope).toFrozen input type = .ok input)
    (ha : spell scope .maybeMutable none type = .ok a)
    (hb : spell scope .frozen none type = .ok b) :
    a = b := by
  rw [spell_eq_of_passive ((eq_self_iff h).1 rfl), hb] at ha
  exact Except.ok.inj ha.symm

/-! ## Every conversion is typed -/

theorem hasType_record {arrays : List KeyedArray} {Γ : List (String × String)}
    {key input loose frozen text : String}
    (hloose : spell scope .initializer none (.record key) = .ok loose)
    (hfrozen : spell scope .frozen none (.record key) = .ok frozen)
    (htext : (Speller.plain scope).toFrozen input (.record key) = .ok text)
    (hinput : HasType scope arrays Γ input loose) : HasType scope arrays Γ text frozen := by
  obtain ⟨record, name, hlookup, hname, hloose⟩ := spell_record_eq_ok.1 hloose
  obtain ⟨record', name', hlookup', hname', hfrozen⟩ := spell_record_eq_ok.1 hfrozen
  obtain ⟨record'', hlookup'', rfl⟩ := toFrozen_record_eq_ok.1 htext
  cases hlookup.symm.trans hlookup'
  cases hlookup.symm.trans hlookup''
  cases hname.symm.trans hname'
  cases hstruct : record.isStruct with
  | true =>
    rw [recordType_of_frozen hstruct (.inl rfl)] at hfrozen
    cases hfrozen
    change recordType record _ .maybeMutable none = .ok loose at hloose
    rw [recordType_maybeMutable hstruct (by simp)] at hloose
    cases hloose
    exact .toFrozen hlookup hstruct hname hinput
  | false =>
    rw [recordType_of_enum hstruct (by decide)] at hloose hfrozen
    cases hloose
    cases hfrozen
    exact hinput

/-- The conversion of an expression whose value may be mutable has the frozen type. -/
theorem hasType_toFrozen {type : Ty} {arrays : List KeyedArray} {Γ : List (String × String)}
    {input loose frozen text : String} (harrays : keyedArrays type ⊆ arrays)
    (hloose : spell scope .initializer none type = .ok loose)
    (hfrozen : spell scope .frozen none type = .ok frozen)
    (htext : (Speller.plain scope).toFrozen input type = .ok text)
    (hinput : HasType scope arrays Γ input loose) : HasType scope arrays Γ text frozen := by
  induction type generalizing Γ input loose frozen text with
  | primitive p =>
    cases hloose
    cases hfrozen
    rw [← toFrozen_primitive_eq_ok.1 htext]
    split
    · next hp =>
      subst hp
      exact hinput.toUtc
    · exact hinput
  | record key => exact hasType_record hloose hfrozen htext hinput
  | optional other ih =>
    obtain ⟨a, ha, rfl⟩ := spell_optional_eq_ok.1 hloose
    obtain ⟨b, hb, rfl⟩ := spell_optional_eq_ok.1 hfrozen
    obtain ⟨inner, hinner, rfl⟩ := toFrozen_optional_eq_ok.1 htext
    split
    · next hsame =>
      subst hsame
      rwa [← eq_of_toFrozen_eq hinner (spell_initializer none other ▸ ha) hb]
    · exact hinput.nullCheck (ih harrays ha hb hinner (.assumed List.mem_cons_self))
  | array item ih =>
    obtain ⟨_, _, a, hshape, ha, rfl⟩ := spell_array_eq_ok.1 hloose
    cases hshape
    obtain ⟨_, _, b, hshape, hb, rfl⟩ := spell_array_eq_ok.1 hfrozen
    cases hshape
    obtain ⟨each, heach, rfl⟩ := toFrozen_array_eq_ok.1 htext
    split
    · next hsame =>
      subst hsame
      rw [← eq_of_toFrozen_eq heach ha hb]
      exact hinput.frozenCopy
    · refine hinput.frozenMappedCopy (ih harrays ?_ hb heach (.assumed List.mem_cons_self))
      rw [spell_initializer, ha]
  | keyedArray item path keyType ih =>
    obtain ⟨_, _, a, hshape, ha, hloose⟩ := spell_keyedArray_eq_ok.1 hloose
    cases hshape
    rw [if_neg (by decide)] at hloose
    subst hloose
    obtain ⟨_, _, b, hshape, hb, hfrozen⟩ := spell_keyedArray_eq_ok.1 hfrozen
    cases hshape
    rw [if_pos rfl] at hfrozen
    obtain ⟨key, hkey, rfl⟩ := hfrozen
    obtain ⟨each, access, heach, haccess, rfl⟩ := toFrozen_keyedArray_eq_ok.1 htext
    obtain ⟨hself, hitems⟩ := List.cons_subset.1 harrays
    have hkeyed : KeyedArray.Written scope ⟨item, path, keyType⟩ .maybeMutable a access
        (keyArgument keyType key) := ⟨ha, haccess, key, hkey, rfl⟩
    split
    · next hsame =>
      subst hsame
      rw [← eq_of_toFrozen_eq heach ha hb]
      exact hinput.keyedCopy hself hkeyed
    · refine hinput.keyedMappedCopy hself hkeyed
        (ih hitems ?_ hb heach (.assumed List.mem_cons_self))
      rw [spell_initializer, ha]

/-! ## Resolved types -/

theorem yields_fieldName_of_isText {name : Json} (h : IsText name) :
    Yields ((Speller.plain scope).fieldName name) fun _ => True := by
  obtain ⟨text, rfl⟩ := h
  exact Yields.ofValue ⟨_, fieldName_str text, trivial⟩

theorem exists_keyAccess {path : List Json} (h : ∀ part ∈ path, IsText part) :
    ∃ access, (Speller.plain scope).keyAccess path = .ok access := by
  obtain ⟨names, hnames, -⟩ := Yields.mapM fun part hpart =>
    @yields_fieldName_of_isText scope part (h part hpart)
  exact ⟨_, bind_eq_ok_iff.2 ⟨names, hnames, rfl⟩⟩

/-- An expression is converted if the records of its type are there, whether or not these have
names. -/
theorem exists_toFrozen_of_found {type : Ty} (hparts : ∀ part ∈ type.keyParts, IsText part)
    (hfound : ∀ key ∈ type.recordKeys, ∃ record, scope.records.lookup key = some record)
    (input : String) :
    ∃ text, (Speller.plain scope).toFrozen input type = .ok text := by
  induction type generalizing input with
  | primitive p => exact ⟨_, toFrozen_primitive_eq_ok.2 rfl⟩
  | record key =>
    obtain ⟨record, hlookup⟩ := hfound key List.mem_cons_self
    exact ⟨_, toFrozen_record_eq_ok.2 ⟨record, hlookup, rfl⟩⟩
  | optional other ih =>
    obtain ⟨inner, hinner⟩ := ih hparts hfound input
    exact ⟨_, toFrozen_optional_eq_ok.2 ⟨inner, hinner, rfl⟩⟩
  | array item ih =>
    obtain ⟨each, heach⟩ := ih hparts hfound "it"
    exact ⟨_, toFrozen_array_eq_ok.2 ⟨each, heach, rfl⟩⟩
  | keyedArray item path keyType ih =>
    rw [Ty.keyParts, List.forall_mem_append, List.forall_mem_append] at hparts
    rw [Ty.recordKeys, List.forall_mem_append] at hfound
    obtain ⟨each, heach⟩ := ih hparts.1.1 hfound.1 "it"
    obtain ⟨access, haccess⟩ := @exists_keyAccess scope path hparts.1.2
    exact ⟨_, toFrozen_keyedArray_eq_ok.2 ⟨each, access, heach, haccess, rfl⟩⟩

theorem exists_toFrozen {type : Ty} (h : ResolvedType scope.records type) (input : String) :
    ∃ text, (Speller.plain scope).toFrozen input type = .ok text :=
  exists_toFrozen_of_found h.parts (fun key hkey => (h.found key hkey).imp fun _ => And.left) input

/-- The text is the conversion of an expression: it is what is computed afresh, and what any session
answers whose memory is sound. -/
structure ConvertedTo (scope : Scope) (input : String) (type : Ty) (text : String) : Prop where
  fresh : (Speller.plain scope).toFrozen input type = .ok text
  remembered : Gives (Sound scope) (Sound scope) ((Speller.remembering scope).toFrozen input type)
    (.ok text)

theorem ConvertedTo.of_fresh {input text : String} {type : Ty}
    (hparts : ∀ part ∈ type.keyParts, IsText part)
    (h : (Speller.plain scope).toFrozen input type = .ok text) :
    ConvertedTo scope input type text :=
  ⟨h, h ▸ (spells_remembering scope).toFrozen ⟨hparts, fun key _ =>
    Questions.texts_allowsKey scope key⟩ input⟩

theorem ResolvedType.exists_convertedTo {type : Ty} (h : ResolvedType scope.records type)
    (input : String) : ∃ text, ConvertedTo scope input type text :=
  (exists_toFrozen h input).imp fun _ => .of_fresh h.parts

/-- A resolved type has a spelling for what a constructor is given and one for what it keeps, every
expression is converted, and if the expression has the one type then its conversion has the other.
Arrays with keys are those of the type, and perhaps more. -/
theorem toFrozen_typed {type : Ty} (h : ResolvedType scope.records type) (input : String)
    (Γ : List (String × String)) :
    ∃ loose frozen text, WrittenAs scope type .initializer none loose ∧
      WrittenAs scope type .frozen none frozen ∧ ConvertedTo scope input type text ∧
      ∀ arrays, keyedArrays type ⊆ arrays →
        HasType scope arrays Γ input loose → HasType scope arrays Γ text frozen := by
  obtain ⟨loose, hloose⟩ := h.exists_writtenAs (show Flavor.initializer ≠ .kind by decide) none
  obtain ⟨frozen, hfrozen⟩ := h.exists_writtenAs (show Flavor.frozen ≠ .kind by decide) none
  obtain ⟨text, htext⟩ := h.exists_convertedTo input
  refine ⟨loose, frozen, text, hloose, hfrozen, htext, fun arrays harrays hinput => ?_⟩
  have hspelt := h.dartType_eq .initializer none ▸ hloose.fresh
  exact hasType_toFrozen harrays hspelt (h.dartType_eq .frozen none ▸ hfrozen.fresh) htext.fresh
    hinput

/-- The users that a team is given, by their role. -/
theorem team_toFrozen_typed :
    HasType teamScope (keyedArrays teamType)
      [("users", "_core.Iterable<_lib_user.User_orMutable>?")]
      ("(users != null) ? _soia.internal__keyedMappedCopy(users, \"role.kind\", "
        ++ "(it) => it.role.kind, (it) => it.toFrozen()) : null")
      "_soia.KeyedIterable<_lib_user.User, _lib_user.User_Role_kind>?" := by
  obtain ⟨loose, frozen, text, hloose, hfrozen, htext, htyped⟩ :=
    toFrozen_typed teamType_resolved "users"
    [("users", "_core.Iterable<_lib_user.User_orMutable>?")]
  cases hloose.fresh
  cases hfrozen.fresh
  cases htext.fresh
  exact htyped _ (List.Subset.refl _) (.assumed List.mem_cons_self)

end DartRecords.Dart
