import DartRecords.Dart.SourceFile

/-!
# Code is the same wherever names come from

Code is written against a source of names and spellings in some monad.  A `Simulation` relates the
steps of one monad to those of another, and is respected by the ways in which steps are put
together.  If the answers of two sources are related (`Spells`), then so is all code that is written
against them: there is one lemma for each part of a file, up to `Spells.moduleCode`.

The sources need not answer every question alike.  `Spells` restricts the names and the records that
are asked about, and the lemmas say which ones a part of a file needs.  Only sources look records
up, so a simulation need not relate the faults that come of a missing record.
-/

namespace DartRecords.Dart

open Schema (Constant Field Method Module Record Ty)

/-! ## Faults that are not of the schema -/

theorem ofValue_ne_schema {α : Type} (result : Except Mismatch α) (cause : Schema.Error) :
    ofValue result ≠ .error (.schema cause) := by
  cases result with
  | error e =>
    intro h
    cases h
  | ok a =>
    intro h
    cases h

theorem recordType_ne_schema (record : Record) (name : String) (flavor : Flavor)
    (allFrozen : Option Bool) (cause : Schema.Error) :
    recordType record name flavor allFrozen ≠ .error (.schema cause) := by
  intro h
  unfold recordType at h
  split at h
  · split at h
    · cases h
    · split at h <;> cases h
  · split at h <;> cases h

theorem arrayShape_ne_schema (flavor : Flavor) (cause : Schema.Error) :
    arrayShape flavor ≠ .error (.schema cause) := by
  cases flavor <;> simp [arrayShape]

/-! ## Related steps -/

/-- A relation between the steps of two monads. -/
structure Simulation (m n : Type → Type) [Monad m] [MonadExceptOf Error m] [Monad n]
    [MonadExceptOf Error n] where
  Rel : {α : Type} → m α → n α → Prop
  /-- A value that a step of the second monad may return. -/
  MayReturn : {α : Type} → n α → α → Prop
  eq_of_pure : ∀ {α : Type} {a b : α}, MayReturn (Pure.pure a) b → a = b
  not_mayReturn_throw : ∀ {α : Type} {e : Error} {a : α},
    ¬MayReturn (MonadExcept.throw e : n α) a
  pure : ∀ {α : Type} (a : α), Rel (Pure.pure a) (Pure.pure a)
  throw : ∀ {α : Type} {e : Error}, (∀ cause, e ≠ .schema cause) →
    Rel (MonadExcept.throw e : m α) (MonadExcept.throw e)
  bind : ∀ {α β : Type} {x : m α} {y : n α} {f : α → m β} {g : α → n β},
    Rel x y → (∀ a, MayReturn y a → Rel (f a) (g a)) → Rel (x >>= f) (y >>= g)

namespace Simulation

variable {m n : Type → Type} [Monad m] [MonadExceptOf Error m] [Monad n] [MonadExceptOf Error n]
  (sim : Simulation m n) {α β : Type}

theorem lift {result : Except Error α} (h : ∀ cause, result ≠ .error (.schema cause)) :
    sim.Rel (Dart.lift result) (Dart.lift result) := by
  cases result with
  | error e => exact sim.throw fun cause hcause => h cause (congrArg Except.error hcause)
  | ok a => exact sim.pure a

theorem value (result : Except Mismatch α) :
    sim.Rel (Dart.lift (ofValue result)) (Dart.lift (ofValue result)) :=
  sim.lift (ofValue_ne_schema result)

theorem resolved (type : Option Ty) : sim.Rel (Dart.resolved type) (Dart.resolved type) := by
  cases type with
  | none => exact sim.throw (by simp)
  | some t => exact sim.pure t

theorem mapM [LawfulMonad m] [LawfulMonad n] {items : List α} {f : α → m β} {g : α → n β}
    (h : ∀ item ∈ items, sim.Rel (f item) (g item)) : sim.Rel (items.mapM f) (items.mapM g) := by
  induction items with
  | nil =>
    rw [List.mapM_nil, List.mapM_nil]
    exact sim.pure []
  | cons item items ih =>
    rw [List.mapM_cons, List.mapM_cons]
    refine sim.bind (h item List.mem_cons_self) fun first _ => ?_
    refine sim.bind (ih fun other hother => h other (List.mem_cons_of_mem _ hother))
      fun rest _ => ?_
    exact sim.pure _

theorem variantBase (f : Field) : sim.Rel (Enum.variantBase f) (Enum.variantBase f) := sim.value _

theorem optionClass (name : String) (f : Field) :
    sim.Rel (Enum.optionClass name f) (Enum.optionClass name f) :=
  sim.bind (sim.variantBase f) fun _ _ => sim.pure _

theorem kindName (f : Field) : sim.Rel (Enum.kindName f) (Enum.kindName f) :=
  sim.bind (sim.variantBase f) fun _ _ => sim.pure _

theorem eq_of_resolved {type : Option Ty} {t : Ty} (h : sim.MayReturn (Dart.resolved type) t) :
    type = some t := by
  cases type with
  | none => exact absurd h sim.not_mayReturn_throw
  | some t' => rw [sim.eq_of_pure h]

theorem eq_of_lift {result : Except Error α} {a : α} (h : sim.MayReturn (Dart.lift result) a) :
    result = .ok a := by
  cases result with
  | error e => exact absurd h sim.not_mayReturn_throw
  | ok b => rw [sim.eq_of_pure h]

end Simulation

/-! ## Questions to a source -/

/-- The keys of the records that the spelling of a type in a flavour names. -/
def spelledKeys (flavor : Flavor) : Ty → List String
  | .primitive _ => []
  | .record key => [key]
  | .optional other => spelledKeys flavor other
  | .array item =>
    match arrayShape flavor with
    | .ok (itemFlavor, _) => spelledKeys itemFlavor item
    | .error _ => []
  | .keyedArray item _ keyType =>
    match arrayShape flavor with
    | .ok (itemFlavor, _) =>
      spelledKeys itemFlavor item ++ if flavor = .frozen then spelledKeys .frozen keyType else []
    | .error _ => []

theorem mem_recordKeys_of_mem_spelledKeys {flavor : Flavor} {type : Ty} {key : String}
    (h : key ∈ spelledKeys flavor type) : key ∈ type.recordKeys := by
  induction type generalizing flavor with
  | primitive p => exact h
  | record key' => exact h
  | optional other ih => exact ih h
  | array item ih =>
    rw [spelledKeys] at h
    split at h
    · exact ih h
    · cases h
  | keyedArray item path keyType ihItem ihKey =>
    rw [spelledKeys] at h
    split at h
    · rw [Ty.recordKeys]
      rcases List.mem_append.1 h with h | h
      · exact List.mem_append_left _ (ihItem h)
      · split at h
        · exact List.mem_append_right _ (ihKey h)
        · cases h
    · cases h

/-- Which names, which records and which keys without a record a source may be asked about. -/
structure Questions where
  Name : Json → Prop
  Found : Record → Prop
  Missing : String → Prop

namespace Questions

variable (q : Questions) (scope : Scope)

/-- The record of a key may be asked about, or that there is none. -/
structure AllowsKey (key : String) : Prop where
  found : ∀ record, scope.record key = .ok record → q.Found record
  missing : scope.records.lookup key = none → q.Missing key

/-- The spelling of a type in a flavour may be asked for. -/
def AllowsSpelling (flavor : Flavor) (type : Ty) : Prop :=
  ∀ key ∈ spelledKeys flavor type, q.AllowsKey scope key

/-- Everything about a type may be asked for. -/
structure AllowsType (type : Ty) : Prop where
  name : ∀ part ∈ type.keyParts, q.Name part
  key : ∀ key ∈ type.recordKeys, q.AllowsKey scope key

/-- The parameter of a field may be asked for. -/
structure AllowsParameter (f : Field) : Prop where
  name : q.Name f.name
  type : ∀ t, f.type = some t → q.AllowsSpelling scope .initializer t

/-- Everything about a field may be asked for. -/
structure AllowsField (f : Field) : Prop where
  name : q.Name f.name
  type : ∀ t, f.type = some t → q.AllowsType scope t

/-- Everything about a record may be asked for.  Where a variant of an enum wraps a struct, the
parameters of its fields are asked for as well. -/
structure AllowsRecord (r : Record) : Prop where
  found : q.Found r
  field : ∀ f ∈ r.fields, q.AllowsField scope f
  wrapped : r.isStruct = false → ∀ f ∈ r.fields, ∀ key, f.type = some (.record key) →
    ∀ struct, scope.record key = .ok struct → struct.isStruct = true →
    ∀ parameter ∈ struct.fields, q.AllowsParameter scope parameter

/-- Everything about a module may be asked for. -/
structure AllowsModule (module : Module) : Prop where
  record : ∀ r ∈ module.records, q.AllowsRecord scope r
  method : ∀ method ∈ module.methods, q.AllowsType scope method.requestType ∧
    q.AllowsType scope method.responseType
  constant : ∀ constant ∈ module.constants, q.Name constant.name ∧ q.AllowsType scope constant.type

variable {q scope}

theorem AllowsType.spelling {type : Ty} (h : q.AllowsType scope type) (flavor : Flavor) :
    q.AllowsSpelling scope flavor type :=
  fun key hkey => h.key key (mem_recordKeys_of_mem_spelledKeys hkey)

theorem AllowsField.parameter {f : Field} (h : q.AllowsField scope f) : q.AllowsParameter scope f :=
  ⟨h.name, fun t ht => (h.type t ht).spelling .initializer⟩

end Questions

section Spell

variable {m n : Type → Type} [Monad m] [MonadExceptOf Error m] [Monad n] [MonadExceptOf Error n]
  (sim : Simulation m n) {q : Questions} {scope : Scope}

/-- Spellings are related if lookups and class names are, and if recalling a spelling keeps it
related. -/
theorem Simulation.spellWith {className : Record → m String} {className' : Record → n String}
    {memory : SpellingKey → m String → m String} {memory' : SpellingKey → n String → n String}
    (hrecord : ∀ {key}, q.AllowsKey scope key →
      sim.Rel (Dart.lift (scope.record key)) (Dart.lift (scope.record key)))
    (hclass : ∀ {record}, q.Found record → sim.Rel (className record) (className' record))
    (hrecall : ∀ {type flavor allFrozen compute compute'},
      Dart.spellWith scope className' memory' flavor allFrozen type =
        memory' ⟨type, flavor, allFrozen⟩ compute' → sim.Rel compute compute' →
      sim.Rel (memory ⟨type, flavor, allFrozen⟩ compute)
        (memory' ⟨type, flavor, allFrozen⟩ compute'))
    {flavor : Flavor} {allFrozen : Option Bool} {type : Ty}
    (h : q.AllowsSpelling scope flavor type) :
    sim.Rel (Dart.spellWith scope className memory flavor allFrozen type)
      (Dart.spellWith scope className' memory' flavor allFrozen type) := by
  induction type generalizing flavor allFrozen with
  | primitive p =>
    rw [Dart.spellWith, Dart.spellWith]
    exact hrecall (by rw [Dart.spellWith]) (sim.pure _)
  | record key =>
    rw [Dart.spellWith, Dart.spellWith]
    have hkey := h key List.mem_cons_self
    refine hrecall (by rw [Dart.spellWith]) (sim.bind (hrecord hkey) fun record hfound => ?_)
    refine sim.bind (hclass (hkey.found record (sim.eq_of_lift hfound))) fun name _ => ?_
    exact sim.lift (recordType_ne_schema record name flavor allFrozen)
  | optional other ih =>
    rw [Dart.spellWith, Dart.spellWith]
    exact hrecall (by rw [Dart.spellWith]) (sim.bind (ih h) fun spelt _ => sim.pure _)
  | array item ih =>
    rw [Dart.spellWith, Dart.spellWith]
    refine hrecall (by rw [Dart.spellWith])
      (sim.bind (sim.lift (arrayShape_ne_schema flavor)) fun shape hshape => ?_)
    rw [Questions.AllowsSpelling, spelledKeys, sim.eq_of_lift hshape] at h
    exact sim.bind (ih h) fun spelt _ => sim.pure _
  | keyedArray item path keyType ihItem ihKey =>
    rw [Dart.spellWith, Dart.spellWith]
    refine hrecall (by rw [Dart.spellWith])
      (sim.bind (sim.lift (arrayShape_ne_schema flavor)) fun shape hshape => ?_)
    rw [Questions.AllowsSpelling, spelledKeys, sim.eq_of_lift hshape] at h
    obtain ⟨hitem, hkey⟩ := List.forall_mem_append.1 h
    refine sim.bind (ihItem hitem) fun spelt _ => ?_
    split
    · next hfrozen =>
      rw [if_pos hfrozen] at hkey
      exact sim.bind (ihKey hkey) fun key _ => sim.pure _
    · exact sim.pure _

end Spell

/-- The answers of two sources to the questions that they may be asked are related. -/
structure Spells {m n : Type → Type} [Monad m] [MonadExceptOf Error m] [Monad n]
    [MonadExceptOf Error n] (sim : Simulation m n) (q : Questions) (sp : Speller m)
    (sp' : Speller n) (scope : Scope) : Prop where
  scope_eq : sp'.scope = scope
  fieldName : ∀ {name}, q.Name name → sim.Rel (sp.fieldName name) (sp'.fieldName name)
  variantName : ∀ {name}, q.Name name → sim.Rel (sp.variantName name) (sp'.variantName name)
  constantName : ∀ {name}, q.Name name → sim.Rel (sp.constantName name) (sp'.constantName name)
  record : ∀ {key}, q.AllowsKey scope key → sim.Rel (sp.record key) (sp'.record key)
  className : ∀ {record}, q.Found record → sim.Rel (sp.className record) (sp'.className record)
  dartType : ∀ {type flavor} (allFrozen : Option Bool), q.AllowsSpelling scope flavor type →
    sim.Rel (sp.dartType type flavor allFrozen) (sp'.dartType type flavor allFrozen)

namespace Spells

variable {m n : Type → Type} [Monad m] [MonadExceptOf Error m] [Monad n] [MonadExceptOf Error n]
  {sim : Simulation m n} {q : Questions} {sp : Speller m} {sp' : Speller n} {scope : Scope}
  (h : Spells sim q sp sp' scope)

include h

/-! ## Parts with one step for each question -/

theorem eq_of_record {key : String} {record : Record}
    (hrecord : sim.MayReturn (sp'.record key) record) : scope.record key = .ok record := by
  rw [Speller.record, h.scope_eq] at hrecord
  exact sim.eq_of_lift hrecord

theorem defaultValue {type : Ty} (htype : q.AllowsType scope type) :
    sim.Rel (sp.defaultValue type) (sp'.defaultValue type) := by
  cases type with
  | primitive p => exact sim.pure _
  | array item => exact sim.pure _
  | keyedArray item path keyType => exact sim.pure _
  | optional other => exact sim.pure _
  | record key =>
    refine sim.bind (h.record (htype.key key List.mem_cons_self)) fun record _ => ?_
    refine sim.bind (h.dartType none (htype.spelling .frozen)) fun frozen _ => ?_
    split
    · exact sim.pure _
    · exact sim.pure _

section Field

variable {f : Field}

theorem getter (hf : q.AllowsField scope f) :
    sim.Rel (Struct.getter sp f) (Struct.getter sp' f) := by
  refine sim.bind (sim.resolved f.type) fun t ht => ?_
  refine sim.bind (h.dartType _ ((hf.type t (sim.eq_of_resolved ht)).spelling _)) fun type _ => ?_
  exact sim.bind (h.fieldName hf.name) fun name _ => sim.pure _

theorem frozenProperty (hf : q.AllowsField scope f) :
    sim.Rel (Struct.frozenProperty sp f) (Struct.frozenProperty sp' f) := by
  refine sim.bind (h.fieldName hf.name) fun name _ => ?_
  refine sim.bind (sim.resolved f.type) fun t ht => ?_
  have htype := hf.type t (sim.eq_of_resolved ht)
  refine sim.bind (h.dartType _ (htype.spelling _)) fun type _ => ?_
  split
  · exact sim.bind (h.defaultValue htype) fun default _ => sim.pure _
  · exact sim.pure _

theorem parameter (hf : q.AllowsParameter scope f) :
    sim.Rel (Struct.parameter sp f) (Struct.parameter sp' f) := by
  refine sim.bind (sim.resolved f.type) fun t ht => ?_
  refine sim.bind (h.dartType _ (hf.type t (sim.eq_of_resolved ht))) fun type _ => ?_
  exact sim.bind (h.fieldName hf.name) fun name _ => sim.pure _

theorem frozenFormal (hf : q.AllowsField scope f) :
    sim.Rel (Struct.frozenFormal sp f) (Struct.frozenFormal sp' f) :=
  sim.bind (h.fieldName hf.name) fun _ _ => sim.pure _

theorem defaultArgument (hf : q.AllowsField scope f) :
    sim.Rel (Struct.defaultArgument sp f) (Struct.defaultArgument sp' f) := by
  refine sim.bind (sim.resolved f.type) fun t ht => ?_
  exact sim.bind (h.defaultValue (hf.type t (sim.eq_of_resolved ht))) fun default _ => sim.pure _

theorem defaultInstanceArgument (hf : q.AllowsField scope f) :
    sim.Rel (Struct.defaultInstanceArgument sp f)
      (Struct.defaultInstanceArgument sp' f) := by
  rw [Struct.defaultInstanceArgument, Struct.defaultInstanceArgument]
  split
  · exact sim.pure _
  · exact h.defaultArgument hf

theorem ownField (hf : q.AllowsField scope f) :
    sim.Rel (Struct.ownField sp f) (Struct.ownField sp' f) :=
  sim.bind (h.fieldName hf.name) fun _ _ => sim.pure _

theorem mutableProperty (hf : q.AllowsField scope f) :
    sim.Rel (Struct.mutableProperty sp f) (Struct.mutableProperty sp' f) := by
  refine sim.bind (sim.resolved f.type) fun t ht => ?_
  refine sim.bind (h.dartType _ ((hf.type t (sim.eq_of_resolved ht)).spelling _)) fun type _ => ?_
  exact sim.bind (h.fieldName hf.name) fun name _ => sim.pure _

theorem namedArgument (hf : q.AllowsField scope f) :
    sim.Rel (Struct.namedArgument sp f) (Struct.namedArgument sp' f) :=
  sim.bind (h.fieldName hf.name) fun _ _ => sim.pure _

theorem constantMember (hf : q.AllowsField scope f) (name : String) :
    sim.Rel (Enum.constantMember sp name f) (Enum.constantMember sp' name f) := by
  refine sim.bind (h.variantName hf.name) fun _ _ => ?_
  exact sim.bind (sim.optionClass name f) fun _ _ => sim.pure _

theorem passedArgument (hf : q.AllowsParameter scope f) :
    sim.Rel (Enum.passedArgument sp f) (Enum.passedArgument sp' f) :=
  sim.bind (h.fieldName hf.name) fun _ _ => sim.pure _

theorem wrapperClass (hf : q.AllowsField scope f) (name : String) :
    sim.Rel (Enum.wrapperClass sp name f) (Enum.wrapperClass sp' name f) := by
  refine sim.bind (sim.optionClass name f) fun _ _ => ?_
  refine sim.bind (sim.resolved f.type) fun t ht => ?_
  refine sim.bind (h.dartType _ ((hf.type t (sim.eq_of_resolved ht)).spelling _)) fun _ _ => ?_
  exact sim.bind (sim.kindName f) fun _ _ => sim.pure _

end Field

/-! ## Expressions -/

-- From here on steps are repeated for the parts of a list, which takes the laws of the monads.
variable [LawfulMonad m] [LawfulMonad n]

theorem keyAccess {path : List Json} (hpath : ∀ part ∈ path, q.Name part) :
    sim.Rel (sp.keyAccess path) (sp'.keyAccess path) := by
  refine sim.bind (sim.mapM fun part hpart => h.fieldName (hpath part hpart)) fun names _ => ?_
  exact sim.pure _

theorem serializer {type : Ty} (htype : q.AllowsType scope type) :
    sim.Rel (sp.serializer type) (sp'.serializer type) := by
  induction type with
  | primitive p => exact sim.pure _
  | record key =>
    have hkey := htype.key key List.mem_cons_self
    refine sim.bind (h.record hkey) fun record hrecord => ?_
    refine sim.bind (h.className (hkey.found record (h.eq_of_record hrecord))) fun name _ => ?_
    exact sim.pure _
  | array item ih => exact sim.bind (ih ⟨htype.name, htype.key⟩) fun inner _ => sim.pure _
  | optional other ih => exact sim.bind (ih ⟨htype.name, htype.key⟩) fun inner _ => sim.pure _
  | keyedArray item path keyType ih _ =>
    have hitem : q.AllowsType scope item :=
      ⟨fun part hpart => htype.name part (by simp [Ty.keyParts, hpart]),
        fun key hkey => htype.key key (by simp [Ty.recordKeys, hkey])⟩
    refine sim.bind (ih hitem) fun inner _ => ?_
    refine sim.bind (sim.value _) fun chain _ => ?_
    refine sim.bind (h.keyAccess fun part hpart => htype.name part ?_) fun access _ => ?_
    · simp [Ty.keyParts, hpart]
    · exact sim.bind (h.dartType none (hitem.spelling .frozen)) fun itemType _ => sim.pure _

theorem toFrozen {type : Ty} (htype : q.AllowsType scope type) (input : String) :
    sim.Rel (sp.toFrozen input type) (sp'.toFrozen input type) := by
  induction type generalizing input with
  | primitive p => exact sim.pure _
  | record key =>
    exact sim.bind (h.record (htype.key key List.mem_cons_self)) fun record _ => sim.pure _
  | array item ih =>
    refine sim.bind (ih ⟨htype.name, htype.key⟩ "it") fun each _ => ?_
    split
    · exact sim.pure _
    · exact sim.pure _
  | optional other ih =>
    refine sim.bind (ih ⟨htype.name, htype.key⟩ input) fun inner _ => ?_
    split
    · exact sim.pure _
    · exact sim.pure _
  | keyedArray item path keyType ih _ =>
    refine sim.bind (ih ⟨?_, ?_⟩ "it") fun each _ => ?_
    · exact fun part hpart => htype.name part (by simp [Ty.keyParts, hpart])
    · exact fun key hkey => htype.key key (by simp [Ty.recordKeys, hkey])
    · refine sim.bind (h.keyAccess fun part hpart => htype.name part ?_) fun access _ => ?_
      · simp [Ty.keyParts, hpart]
      · split
        · exact sim.pure _
        · exact sim.pure _

/-! ## Structs -/

section Struct

variable {f : Field} {fields : List Field}

theorem frozenArgument (hf : q.AllowsField scope f) :
    sim.Rel (Struct.frozenArgument sp f) (Struct.frozenArgument sp' f) := by
  refine sim.bind (h.fieldName hf.name) fun name _ => ?_
  refine sim.bind (sim.resolved f.type) fun t ht => ?_
  exact sim.bind (h.toFrozen (hf.type t (sim.eq_of_resolved ht)) name) fun frozen _ => sim.pure _

theorem sealedClass (hfields : ∀ f ∈ fields, q.AllowsField scope f) (name : String) :
    sim.Rel (Struct.sealedClass sp name fields)
      (Struct.sealedClass sp' name fields) :=
  sim.bind (sim.mapM fun f hf => h.getter (hfields f hf)) fun _ _ => sim.pure _

theorem frozenClass (hfields : ∀ f ∈ fields, q.AllowsField scope f) (name : String) :
    sim.Rel (Struct.frozenClass sp name fields)
      (Struct.frozenClass sp' name fields) := by
  refine sim.bind (sim.mapM fun f hf => h.frozenProperty (hfields f hf)) fun _ _ => ?_
  refine sim.bind (sim.mapM fun f hf => h.parameter (hfields f hf).parameter) fun _ _ => ?_
  refine sim.bind (sim.mapM fun f hf => h.frozenArgument (hfields f hf)) fun _ _ => ?_
  refine sim.bind (sim.mapM fun f hf => h.frozenFormal (hfields f hf)) fun _ _ => ?_
  refine sim.bind (sim.mapM fun f hf => h.defaultInstanceArgument (hfields f hf)) fun _ _ => ?_
  refine sim.bind (sim.mapM fun f hf => h.defaultArgument (hfields f hf)) fun _ _ => ?_
  refine sim.bind (sim.mapM fun f hf => h.ownField (hfields f hf)) fun _ _ => ?_
  exact sim.pure _

theorem mutableClass (hfields : ∀ f ∈ fields, q.AllowsField scope f) (name : String) :
    sim.Rel (Struct.mutableClass sp name fields)
      (Struct.mutableClass sp' name fields) := by
  refine sim.bind (sim.mapM fun f hf => h.mutableProperty (hfields f hf)) fun _ _ => ?_
  refine sim.bind (sim.mapM fun f hf => h.ownField (hfields f hf)) fun _ _ => ?_
  refine sim.bind (sim.mapM fun f hf => h.namedArgument (hfields f hf)) fun _ _ => ?_
  exact sim.pure _

theorem structClasses {struct : Record} (hstruct : q.AllowsRecord scope struct) :
    sim.Rel (Struct.classes sp struct) (Struct.classes sp' struct) := by
  refine sim.bind (h.className hstruct.found) fun name _ => ?_
  refine sim.bind (h.sealedClass hstruct.field name) fun _ _ => ?_
  refine sim.bind (h.frozenClass hstruct.field name) fun _ _ => ?_
  exact sim.bind (h.mutableClass hstruct.field name) fun _ _ => sim.pure _

end Struct

/-! ## Enums -/

theorem createFactory {struct : Record} (hfound : q.Found struct)
    (hfields : ∀ f ∈ struct.fields, q.AllowsParameter scope f) (name option base : String) :
    sim.Rel (Enum.createFactory sp name option base struct)
      (Enum.createFactory sp' name option base struct) := by
  refine sim.bind (h.className hfound) fun _ _ => ?_
  refine sim.bind (sim.mapM fun f hf => h.parameter (hfields f hf)) fun _ _ => ?_
  refine sim.bind (sim.mapM fun f hf => h.passedArgument (hfields f hf)) fun _ _ => ?_
  exact sim.pure _

theorem factories {f : Field} (hf : q.AllowsField scope f)
    (hwrapped : ∀ key, f.type = some (.record key) → ∀ struct, scope.record key = .ok struct →
      struct.isStruct = true → ∀ parameter ∈ struct.fields, q.AllowsParameter scope parameter)
    (name : String) :
    sim.Rel (Enum.factories sp name f) (Enum.factories sp' name f) := by
  refine sim.bind (sim.optionClass name f) fun option _ => ?_
  refine sim.bind (sim.variantBase f) fun base _ => ?_
  refine sim.bind (sim.resolved f.type) fun t ht => ?_
  have htype := hf.type t (sim.eq_of_resolved ht)
  refine sim.bind (h.dartType _ (htype.spelling _)) fun initializer _ => ?_
  refine sim.bind (h.toFrozen htype "value") fun frozen _ => ?_
  cases t with
  | primitive p => exact sim.pure _
  | array item => exact sim.pure _
  | keyedArray item path keyType => exact sim.pure _
  | optional other => exact sim.pure _
  | record key =>
    have hkey := htype.key key List.mem_cons_self
    refine sim.bind (h.record hkey) fun record hrecord => ?_
    have hrecord := h.eq_of_record hrecord
    split
    · next hstruct =>
      refine sim.bind (h.createFactory (hkey.found record hrecord)
        (hwrapped key (sim.eq_of_resolved ht) record hrecord hstruct) name option base)
          fun _ _ => ?_
      exact sim.pure _
    · exact sim.pure _

theorem enumClasses {enum : Record} (hkind : enum.isStruct = false)
    (henum : q.AllowsRecord scope enum) :
    sim.Rel (Enum.classes sp enum) (Enum.classes sp' enum) := by
  have hfield : ∀ p : Field → Bool, ∀ f ∈ enum.fields.filter p, q.AllowsField scope f :=
    fun p f hf => henum.field f (List.mem_filter.1 hf).1
  refine sim.bind (h.className henum.found) fun name _ => ?_
  refine sim.bind ?_ fun sealedOne _ => ?_
  · refine sim.bind (sim.mapM fun f hf => h.constantMember (hfield _ f hf) name) fun _ _ => ?_
    refine sim.bind (sim.mapM fun f hf => h.factories (hfield _ f hf)
      (henum.wrapped hkind f (List.mem_filter.1 hf).1) name) fun _ _ => ?_
    exact sim.pure _
  · refine sim.bind (sim.mapM fun f _ => ?_) fun constantOnes _ => ?_
    · refine sim.bind (sim.optionClass name f) fun _ _ => ?_
      exact sim.bind (sim.kindName f) fun _ _ => sim.pure _
    · refine sim.bind (sim.mapM fun f hf => h.wrapperClass (hfield _ f hf) name) fun _ _ => ?_
      refine sim.bind ?_ fun kinds _ => sim.pure _
      exact sim.bind (sim.mapM fun f _ => sim.kindName f) fun _ _ => sim.pure _

/-! ## Files -/

theorem recordCode {record : Record} (hrecord : q.AllowsRecord scope record) :
    sim.Rel (Dart.recordCode sp record) (Dart.recordCode sp' record) := by
  rw [Dart.recordCode, Dart.recordCode]
  split
  · exact sim.bind (h.structClasses hrecord) fun code _ => sim.pure _
  · next hkind =>
    exact sim.bind (h.enumClasses (Bool.eq_false_iff.2 hkind) hrecord) fun code _ => sim.pure _

theorem methodCode {method : Method} (hrequest : q.AllowsType scope method.requestType)
    (hresponse : q.AllowsType scope method.responseType) :
    sim.Rel (Dart.methodCode sp method) (Dart.methodCode sp' method) := by
  refine sim.bind (h.dartType _ (hrequest.spelling _)) fun _ _ => ?_
  refine sim.bind (h.dartType _ (hresponse.spelling _)) fun _ _ => ?_
  refine sim.bind (h.serializer hrequest) fun _ _ => ?_
  exact sim.bind (h.serializer hresponse) fun _ _ => sim.value _

theorem constantCode {constant : Constant} (hname : q.Name constant.name)
    (htype : q.AllowsType scope constant.type) :
    sim.Rel (Dart.constantCode sp constant) (Dart.constantCode sp' constant) := by
  refine sim.bind (h.constantName hname) fun _ _ => ?_
  refine sim.bind (h.dartType _ (htype.spelling _)) fun _ _ => ?_
  exact sim.bind (h.serializer htype) fun _ _ => sim.value _

theorem declarations {module : Module} (hmodule : q.AllowsModule scope module) (config : Config) :
    sim.Rel (Dart.declarations sp config module)
      (Dart.declarations sp' config module) := by
  refine sim.bind (sim.mapM fun r hr => h.recordCode (hmodule.record r hr)) fun records _ => ?_
  refine sim.bind (sim.mapM fun method hmem => ?_) fun methods _ => ?_
  · exact h.methodCode (hmodule.method method hmem).1 (hmodule.method method hmem).2
  · dsimp only
    split
    · refine sim.bind (sim.mapM fun constant hmem => ?_) fun constants _ => sim.pure _
      exact h.constantCode (hmodule.constant constant hmem).1 (hmodule.constant constant hmem).2
    · exact sim.bind (sim.pure _) fun constants _ => sim.pure _

/-- The code of a module is the same whatever source it is written against. -/
theorem moduleCode {module : Module} (hmodule : q.AllowsModule scope module) (config : Config)
    (workingDirectory : List String) (path : String) :
    sim.Rel (Dart.moduleCode sp config workingDirectory path module)
      (Dart.moduleCode sp' config workingDirectory path module) := by
  refine sim.bind (sim.value _) fun preamble _ => ?_
  exact sim.bind (h.declarations hmodule config) fun texts _ => sim.pure _

end Spells

end DartRecords.Dart
