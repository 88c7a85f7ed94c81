import DartRecords.Proofs.Flavors
import DartRecords.Proofs.Templates

/-!
# Serializers and the types that they are for

A method and a constant are declared with frozen types, and with serializers of these.  The type and
the serializer are written by two recursions over the same schema type.

`Serializes` has the typing rules of the runtime library for serializers, as a relation between
texts.  The rule for arrays with keys is about the arrays that occur in a schema type: the type of
the keys cannot be seen in the expression.  `serializes_of_serializer` says that the two recursions
stay in step, and `serializers_target_frozen_types` that the declarations have serializers of the
types that they show.
-/

namespace DartRecords.Dart

open Schema (Constant Method Record Ty)

/-! ## Typing rules -/

/-- The Dart expression of a text is a serializer of the Dart type of another one, where arrays with
keys are among those given. -/
inductive Serializes (scope : Scope) (arrays : List KeyedArray) : String → String → Prop
  | primitive (p : Schema.Primitive) :
      Serializes scope arrays ("_soia.Serializers." ++ p.name) (primitiveType p)
  /-- The class of a record has its serializer. -/
  | record {key name : String} {record : Record} :
      scope.records.lookup key = some record → scope.className record = .ok name →
      Serializes scope arrays (name ++ ".serializer") name
  | optional {s a : String} : Serializes scope arrays s a →
      Serializes scope arrays ("_soia.Serializers.optional(\n" ++ s ++ ",\n)") (a ++ "?")
  | iterable {s a : String} : Serializes scope arrays s a →
      Serializes scope arrays ("_soia.Serializers.iterable(\n" ++ s ++ ",\n)")
        ("_core.Iterable<" ++ a ++ ">")
  /-- The function that finds the key of an item has a parameter of the type of the items. -/
  | keyedIterable {array : KeyedArray} {s a access chain key : String} : array ∈ arrays →
      array.Written scope .frozen a access key → Schema.joinTexts "." array.path = .ok chain →
      Serializes scope arrays s a →
      Serializes scope arrays
        ("_soia.Serializers.keyedIterable(\n" ++ s ++ ",\n(" ++ a ++ " it) => it." ++ access
          ++ ",\ninternal__getKeySpec: \"" ++ chain ++ "\",\n)")
        ("_soia.KeyedIterable<" ++ a ++ ", " ++ key ++ ">")

variable {scope : Scope}

/-! ## The serializer of one kind of type at a time -/

section Serializer

variable {text : String}

theorem serializer_record_eq_ok {key : String} :
    (Speller.plain scope).serializer (.record key) = .ok text ↔
      ∃ record name, scope.records.lookup key = some record ∧ scope.className record = .ok name ∧
        name ++ ".serializer" = text := by
  change (lift (scope.record key) >>= fun record => scope.className record >>= fun name =>
    pure (name ++ ".serializer")) = Except.ok text ↔ _
  simp only [bind_eq_ok_iff, lift_eq, record_eq_ok_iff, pure, Except.pure, Except.ok.injEq,
    exists_and_left]

theorem serializer_array_eq_ok {item : Ty} :
    (Speller.plain scope).serializer (.array item) = .ok text ↔
      ∃ inner, (Speller.plain scope).serializer item = .ok inner ∧
        "_soia.Serializers.iterable(\n" ++ inner ++ ",\n)" = text := by
  change ((Speller.plain scope).serializer item >>= fun inner =>
    pure ("_soia.Serializers.iterable(\n" ++ inner ++ ",\n)")) = .ok text ↔ _
  simp only [bind_eq_ok_iff, pure, Except.pure, Except.ok.injEq]

theorem serializer_optional_eq_ok {other : Ty} :
    (Speller.plain scope).serializer (.optional other) = .ok text ↔
      ∃ inner, (Speller.plain scope).serializer other = .ok inner ∧
        "_soia.Serializers.optional(\n" ++ inner ++ ",\n)" = text := by
  change ((Speller.plain scope).serializer other >>= fun inner =>
    pure ("_soia.Serializers.optional(\n" ++ inner ++ ",\n)")) = .ok text ↔ _
  simp only [bind_eq_ok_iff, pure, Except.pure, Except.ok.injEq]

theorem serializer_keyedArray_eq_ok {item keyType : Ty} {path : List Json} :
    (Speller.plain scope).serializer (.keyedArray item path keyType) = .ok text ↔
      ∃ inner chain access itemType, (Speller.plain scope).serializer item = .ok inner ∧
        ofValue (Schema.joinTexts "." path) = .ok chain ∧ (Speller.plain scope).keyAccess path =
          .ok access ∧
        dartType scope item .frozen none = .ok itemType ∧
        "_soia.Serializers.keyedIterable(\n" ++ inner ++ ",\n(" ++ itemType ++ " it) => it."
          ++ access ++ ",\ninternal__getKeySpec: \"" ++ chain ++ "\",\n)" = text := by
  change ((Speller.plain scope).serializer item >>= fun inner =>
    lift (ofValue (Schema.joinTexts "." path)) >>= fun chain =>
    (Speller.plain scope).keyAccess path >>= fun access =>
    dartType scope item .frozen none >>= fun itemType =>
    pure ("_soia.Serializers.keyedIterable(\n" ++ inner ++ ",\n(" ++ itemType ++
      " it) => it." ++ access
      ++ ",\ninternal__getKeySpec: \"" ++ chain ++ "\",\n)")) = .ok text ↔ _
  simp only [bind_eq_ok_iff, lift_eq, pure, Except.pure, Except.ok.injEq, exists_and_left]

end Serializer

/-! ## Every serializer is typed -/

theorem spell_of_dartType {type : Ty} {flavor : Flavor} {allFrozen : Option Bool} {text : String}
    (h : dartType scope type flavor allFrozen = .ok text) :
    spell scope flavor allFrozen type = .ok text := by
  rw [dartType] at h
  split at h
  · exact h
  · cases h

/-- The serializer of a type is one of the frozen type. -/
theorem serializes_of_serializer {type : Ty} {arrays : List KeyedArray} {text frozen : String}
    (harrays : keyedArrays type ⊆ arrays)
    (htext : (Speller.plain scope).serializer type = .ok text)
    (hfrozen : spell scope .frozen none type = .ok frozen) :
    Serializes scope arrays text frozen := by
  induction type generalizing text frozen with
  | primitive p =>
    cases htext
    cases hfrozen
    exact .primitive p
  | record key =>
    obtain ⟨record, name, hlookup, hname, rfl⟩ := serializer_record_eq_ok.1 htext
    obtain ⟨record', name', hlookup', hname', hfrozen⟩ := spell_record_eq_ok.1 hfrozen
    cases hlookup.symm.trans hlookup'
    cases hname.symm.trans hname'
    cases (recordType_frozen record name none).symm.trans hfrozen
    exact .record hlookup hname
  | optional other ih =>
    obtain ⟨inner, hinner, rfl⟩ := serializer_optional_eq_ok.1 htext
    obtain ⟨a, ha, rfl⟩ := spell_optional_eq_ok.1 hfrozen
    exact (ih harrays hinner ha).optional
  | array item ih =>
    obtain ⟨inner, hinner, rfl⟩ := serializer_array_eq_ok.1 htext
    obtain ⟨_, _, a, hshape, ha, rfl⟩ := spell_array_eq_ok.1 hfrozen
    cases hshape
    exact (ih harrays hinner ha).iterable
  | keyedArray item path keyType ih =>
    obtain ⟨inner, chain, access, itemType, hinner, hchain, haccess, hitem, rfl⟩ :=
      serializer_keyedArray_eq_ok.1 htext
    obtain ⟨_, _, a, hshape, ha, hfrozen⟩ := spell_keyedArray_eq_ok.1 hfrozen
    cases hshape
    rw [if_pos rfl] at hfrozen
    obtain ⟨key, hkey, rfl⟩ := hfrozen
    obtain ⟨hself, hitems⟩ := List.cons_subset.1 harrays
    -- The parameter of the function has the type of the items.
    cases (spell_of_dartType hitem).symm.trans ha
    exact .keyedIterable hself ⟨ha, haccess, key, hkey, rfl⟩ (mapError_eq_ok_iff.1 hchain)
      (ih hitems hinner ha)

/-! ## Resolved types -/

theorem exists_joinTexts {values : List Json} (h : ∀ v ∈ values, IsText v) (separator : String) :
    ∃ text, Schema.joinTexts separator values = .ok text := by
  obtain ⟨texts, rfl, -⟩ := @exists_texts values (fun _ => True) fun v hv =>
    (h v hv).imp fun _ hv => ⟨hv, trivial⟩
  exact ⟨_, joinTexts_map separator texts⟩

theorem exists_serializer {type : Ty} (h : ResolvedType scope.records type) :
    ∃ text, (Speller.plain scope).serializer type = .ok text := by
  induction type with
  | primitive p => exact ⟨_, rfl⟩
  | record key =>
    obtain ⟨record, hlookup, hnamed⟩ := h.found key List.mem_cons_self
    obtain ⟨name, hname⟩ := exists_className hnamed scope
    exact ⟨_, serializer_record_eq_ok.2 ⟨record, name, hlookup, hname, rfl⟩⟩
  | optional other ih =>
    obtain ⟨inner, hinner⟩ := ih ⟨h.parts, h.found⟩
    exact ⟨_, serializer_optional_eq_ok.2 ⟨inner, hinner, rfl⟩⟩
  | array item ih =>
    obtain ⟨inner, hinner⟩ := ih ⟨h.parts, h.found⟩
    exact ⟨_, serializer_array_eq_ok.2 ⟨inner, hinner, rfl⟩⟩
  | keyedArray item path keyType ih =>
    have hpath : ∀ part ∈ path, IsText part := fun part hpart =>
      h.parts part (List.mem_append_left _ (List.mem_append_right _ hpart))
    obtain ⟨inner, hinner⟩ := ih h.item_of_keyed
    obtain ⟨chain, hchain⟩ := exists_joinTexts hpath "."
    obtain ⟨access, haccess⟩ := @exists_keyAccess scope path hpath
    obtain ⟨itemType, hitem⟩ :=
      exists_spell h.item_of_keyed (show Flavor.frozen ≠ .kind by decide) none
    rw [← h.item_of_keyed.dartType_eq] at hitem
    exact ⟨_, serializer_keyedArray_eq_ok.2
      ⟨inner, chain, access, itemType, hinner, by rw [hchain]; rfl, haccess, hitem, rfl⟩⟩

/-- The text is what is written with names and spellings that are computed afresh, and with those of
any session whose memory is sound. -/
structure WrittenEither (scope : Scope) (fresh : Except Error String) (remembered : Gen String)
    (text : String) : Prop where
  fresh : fresh = .ok text
  remembered : Gives (Sound scope) (Sound scope) remembered (.ok text)

theorem WrittenEither.of_gives {fresh : Except Error String} {remembered : Gen String}
    {text : String} (h : Gives (Sound scope) (Sound scope) remembered fresh)
    (hfresh : fresh = .ok text) :
    WrittenEither scope fresh remembered text :=
  ⟨hfresh, hfresh ▸ h⟩

theorem ResolvedType.allows {type : Ty} (h : ResolvedType scope.records type) :
    Questions.texts.AllowsType scope type :=
  ⟨h.parts, fun key _ => Questions.texts_allowsKey scope key⟩

/-- The first text is the frozen type, and the second one the serializer, of a schema type, and the
serializer is one of the frozen type. -/
structure FrozenSerializer (scope : Scope) (type : Ty) (frozen text : String) : Prop where
  written : WrittenAs scope type .frozen none frozen
  serializer : WrittenEither scope ((Speller.plain scope).serializer type)
    ((Speller.remembering scope).serializer type) text
  typed : Serializes scope (keyedArrays type) text frozen

theorem ResolvedType.exists_frozenSerializer {type : Ty} (h : ResolvedType scope.records type) :
    ∃ frozen text, FrozenSerializer scope type frozen text := by
  obtain ⟨frozen, hfrozen⟩ := h.exists_writtenAs (show Flavor.frozen ≠ .kind by decide) none
  obtain ⟨text, htext⟩ := exists_serializer h
  refine ⟨frozen, text, hfrozen,
    .of_gives ((spells_remembering scope).serializer h.allows) htext, ?_⟩
  exact serializes_of_serializer (List.Subset.refl _) htext (spell_of_dartType hfrozen.fresh)

/-! ## Declarations -/

/-- The declaration of a method. -/
def methodDeclaration (name : String) (number : Int)
    (request response requestSerializer responseSerializer : String) : String :=
  "final _soia.Method<\n" ++ (request ++ ",\n") ++ (response ++ "\n") ++ ("> " ++ name ++ " =\n")
    ++ "_soia.Method(\n" ++ (String.ofList (stringLiteral name.toList) ++ ",\n")
    ++ ((Json.int number).display ++ ",\n") ++ (requestSerializer ++ ",\n")
    ++ (responseSerializer ++ ",\n") ++ ");\n\n"

/-- The declaration of a constant. -/
def constantDeclaration (name type serializer dense : String) : String :=
  "final " ++ type ++ " " ++ name ++ " =\n" ++ serializer ++ ".fromJsonCode("
    ++ String.ofList (stringLiteral dense.toList) ++ ");\n\n"

theorem methodCode_eq_ok {method : Method}
    {name request response requestSerializer responseSerializer : String}
    (hname : method.name = .str name)
    (hrequest : dartType scope method.requestType .frozen none = .ok request)
    (hresponse : dartType scope method.responseType .frozen none = .ok response)
    (hrequestSerializer : (Speller.plain scope).serializer method.requestType =
      .ok requestSerializer)
    (hresponseSerializer : (Speller.plain scope).serializer method.responseType =
      .ok responseSerializer) :
    methodCode (Speller.plain scope) method =
      .ok (methodDeclaration name method.number request response requestSerializer
        responseSerializer) := by
  refine bind_eq_ok_iff.2 ⟨request, hrequest, bind_eq_ok_iff.2 ⟨response, hresponse, ?_⟩⟩
  refine bind_eq_ok_iff.2 ⟨requestSerializer, hrequestSerializer, ?_⟩
  refine bind_eq_ok_iff.2 ⟨responseSerializer, hresponseSerializer, ?_⟩
  rw [hname, Template.render_method]
  rfl

theorem constantCode_eq_ok {constant : Constant} {name type serializer : String}
    (hname : constantName constant.name = .ok name)
    (htype : dartType scope constant.type .frozen none = .ok type)
    (hserializer : (Speller.plain scope).serializer constant.type = .ok serializer) :
    constantCode (Speller.plain scope) constant =
      .ok (constantDeclaration name type serializer constant.value.toDense) := by
  refine bind_eq_ok_iff.2 ⟨name, ?_, bind_eq_ok_iff.2 ⟨type, htype, ?_⟩⟩
  · change ofValue (constantName constant.name) = .ok name
    rw [hname]
    rfl
  · refine bind_eq_ok_iff.2 ⟨serializer, hserializer, ?_⟩
    rw [Template.render_constant]
    rfl

/-- A constant whose name is a text has a variable. -/
theorem exists_constantName_of_isText {name : Json} (h : IsText name) :
    ∃ answer, constantName name = .ok answer := by
  obtain ⟨text, rfl⟩ := h
  exact ⟨_, Naming.resolve_eq _ _ text rfl (Naming.marked_texts _ ["_METHOD"])⟩

/-- A resolved type has a frozen type and a serializer, which is one of that type.  So a method and
a constant are declared with serializers of the types that they are declared with. -/
theorem serializers_target_frozen_types (scope : Scope) :
    (∀ {type : Ty}, ResolvedType scope.records type →
      ∃ frozen text, FrozenSerializer scope type frozen text) ∧
    (∀ {method : Method} {name : String}, method.name = .str name →
      ResolvedType scope.records method.requestType →
        ResolvedType scope.records method.responseType →
      ∃ request requestSerializer response responseSerializer,
        FrozenSerializer scope method.requestType request requestSerializer ∧
        FrozenSerializer scope method.responseType response responseSerializer ∧
        WrittenEither scope (methodCode (Speller.plain scope) method)
          (methodCode (Speller.remembering scope) method)
          (methodDeclaration name method.number request response requestSerializer
            responseSerializer)) ∧
    ∀ {constant : Constant}, IsText constant.name → ResolvedType scope.records constant.type →
      ∃ name type serializer, constantName constant.name = .ok name ∧
        FrozenSerializer scope constant.type type serializer ∧
        WrittenEither scope (constantCode (Speller.plain scope) constant)
          (constantCode (Speller.remembering scope) constant)
          (constantDeclaration name type serializer constant.value.toDense) := by
  refine ⟨fun h => h.exists_frozenSerializer, ?_, ?_⟩
  · intro method name hname hrequest hresponse
    obtain ⟨request, requestSerializer, hfirst⟩ := hrequest.exists_frozenSerializer
    obtain ⟨response, responseSerializer, hsecond⟩ := hresponse.exists_frozenSerializer
    have hgives := (spells_remembering scope).methodCode hrequest.allows hresponse.allows
    have hcode :=
      methodCode_eq_ok hname hfirst.written.fresh hsecond.written.fresh hfirst.serializer.fresh
      hsecond.serializer.fresh
    exact ⟨request, requestSerializer, response, responseSerializer, hfirst, hsecond,
      .of_gives hgives hcode⟩
  · intro constant hname htype
    obtain ⟨name, hvariable⟩ := exists_constantName_of_isText hname
    obtain ⟨type, serializer, htyped⟩ := htype.exists_frozenSerializer
    have hgives := (spells_remembering scope).constantCode hname htype.allows
    have hcode := constantCode_eq_ok hvariable htyped.written.fresh htyped.serializer.fresh
    exact ⟨name, type, serializer, hvariable, htyped, .of_gives hgives hcode⟩

/-- Asks for a team by its name. -/
def teamMethod : Method where
  name := .str "GetTeam"
  number := 7
  requestType := .primitive .string
  responseType := teamType

/-- How many users a team may have, if there is a limit. -/
def teamLimit : Constant where
  name := .str "TEAM_LIMIT"
  type := .optional (.primitive .int32)
  value := .int 8

/-- The users of a team, by their role. -/
theorem team_serializer_typed : ResolvedType teamScope.records teamType ∧
    Serializes teamScope (keyedArrays teamType)
      ("_soia.Serializers.optional(\n_soia.Serializers.keyedIterable(\n_lib_user.User.serializer,\n"
        ++ "(_lib_user.User it) => it.role.kind,\n"
        ++ "internal__getKeySpec: \"role.kind\",\n),\n)")
      "_soia.KeyedIterable<_lib_user.User, _lib_user.User_Role_kind>?" ∧
    (∃ text, methodCode (Speller.plain teamScope) teamMethod = .ok text) ∧
    ∃ text, constantCode (Speller.plain teamScope) teamLimit = .ok text := by
  obtain ⟨htypes, hmethods, hconstants⟩ := serializers_target_frozen_types teamScope
  obtain ⟨frozen, text, htyped⟩ := htypes teamType_resolved
  have htext : (Speller.plain teamScope).serializer teamType = .ok
      ("_soia.Serializers.optional(\n_soia.Serializers.keyedIterable(\n_lib_user.User.serializer,\n"
        ++ "(_lib_user.User it) => it.role.kind,\n"
        ++ "internal__getKeySpec: \"role.kind\",\n),\n)") := by
    decide +kernel
  cases htyped.written.fresh
  obtain rfl := Except.ok.inj (htyped.serializer.fresh.symm.trans htext)
  have hrequest : ResolvedType teamScope.records teamMethod.requestType :=
    ⟨by simp [teamMethod, Ty.keyParts], by simp [teamMethod, Ty.recordKeys]⟩
  have hlimit : ResolvedType teamScope.records teamLimit.type :=
    ⟨by simp [teamLimit, Ty.keyParts], by simp [teamLimit, Ty.recordKeys]⟩
  obtain ⟨_, _, _, _, -, -, hmethod⟩ :=
    @hmethods teamMethod "GetTeam" rfl hrequest teamType_resolved
  obtain ⟨_, _, _, -, -, hconstant⟩ := @hconstants teamLimit ⟨_, rfl⟩ hlimit
  exact ⟨teamType_resolved, htyped.typed, ⟨_, hmethod.fresh⟩, ⟨_, hconstant.fresh⟩⟩

end DartRecords.Dart
