import DartRecords.Proofs.Memory

/-!
# Records that are looked up

Generation looks records up by their keys.  `MissesOnly` says of a step that the records it finds
missing are among those of some keys, and that it finds no other fault with the schema.  Putting
steps together keeps this, so it is a simulation of generation by itself (`Simulation.missing`), and
the code of a module finds only those records missing that its parts ask for
(`missesOnly_moduleCode`).

A spelling from memory needs no lookup, so it does not matter what a session remembers.
-/

namespace DartRecords.Dart

open Schema (Module Record Ty)

/-- The only fault of the schema that the step raises is a missing record of one of the keys. -/
def MissesOnly (scope : Scope) (keys : List String) {α : Type} (step : Gen α) : Prop :=
  ∀ cause, Raises step (.schema cause) →
    ∃ key ∈ keys, scope.records.lookup key = none ∧ cause = .unknownRecord (.str key)

variable {scope : Scope} {keys : List String} {α β : Type}

/-! ## Steps that are put together -/

namespace MissesOnly

theorem bind {step : Gen α} {next : α → Gen β} (hstep : MissesOnly scope keys step)
    (hnext : ∀ a, Returns step a → MissesOnly scope keys (next a)) :
    MissesOnly scope keys (step >>= next) := by
  intro cause h
  rcases h.of_bind with h | ⟨a, ha, h⟩
  · exact hstep cause h
  · exact hnext a ha cause h

theorem pure (a : α) : MissesOnly scope keys (Pure.pure a) :=
  fun _ h => absurd h Raises.not_pure

/-- A result that is no lookup. -/
theorem lift {result : Except Error α} (h : ∀ cause, result ≠ .error (.schema cause)) :
    MissesOnly scope keys (Dart.lift result) :=
  fun cause hraises => absurd hraises.of_lift (h cause)

theorem value (result : Except Mismatch α) : MissesOnly scope keys (Dart.lift (ofValue result)) :=
  .lift (ofValue_ne_schema result)

theorem mapM {step : α → Gen β} {items : List α}
    (h : ∀ item ∈ items, MissesOnly scope keys (step item)) :
    MissesOnly scope keys (items.mapM step) := by
  intro cause hraises
  obtain ⟨item, hitem, hraises⟩ := hraises.of_mapM
  exact h item hitem cause hraises

theorem modify (change : Session → Session) :
    MissesOnly scope keys (modify change : Gen PUnit) := by
  rintro cause ⟨s, s', h⟩
  cases h

end MissesOnly

/-- Only what a step may return matters to the steps after it. -/
theorem Gen.bind_congr {step : Gen α} {next other : α → Gen β}
    (h : ∀ a, Returns step a → next a = other a) : step >>= next = step >>= other := by
  refine ExceptT.ext (StateT.ext fun s => ?_)
  rw [Gen.run_bind, Gen.run_bind]
  rcases hrun : step.run.run s with ⟨e | a, s'⟩
  · rfl
  · dsimp only
    rw [h a ⟨s, s', hrun⟩]

theorem Returns.not_throw {e : Error} {a : α} : ¬Returns (throw e) a := by
  rintro ⟨s, s', h⟩
  cases h

theorem MissesOnly.throw {e : Error} (h : ∀ cause, e ≠ .schema cause) :
    MissesOnly scope keys (throw e : Gen α) := by
  rintro cause ⟨s, s', hrun⟩
  cases hrun
  exact absurd rfl (h cause)

/-- Steps that find only records of some keys missing, related to themselves. -/
def Simulation.missing (scope : Scope) (keys : List String) : Simulation Gen Gen where
  Rel step other := step = other ∧ MissesOnly scope keys step
  MayReturn := Returns
  eq_of_pure := Returns.of_pure
  not_mayReturn_throw := Returns.not_throw
  pure a := ⟨rfl, .pure a⟩
  throw h := ⟨rfl, .throw h⟩
  bind hstep hnext := ⟨hstep.1 ▸ Gen.bind_congr fun a ha => (hnext a (hstep.1 ▸ ha)).1,
    hstep.2.bind fun a ha => (hnext a (hstep.1 ▸ ha)).2⟩

theorem MissesOnly.rel {step : Gen α} (h : MissesOnly scope keys step) :
    (Simulation.missing scope keys).Rel step step :=
  ⟨rfl, h⟩

/-! ## Lookups, names and spellings -/

/-- The questions that find only records of some keys missing. -/
def Questions.missing (keys : List String) : Questions := ⟨fun _ => True, fun _ => True, (· ∈ keys)⟩

theorem record_eq_error_iff {key : String} {e : Error} :
    scope.record key = .error e ↔
      scope.records.lookup key = none ∧ e = .schema (.unknownRecord (.str key)) := by
  rw [Scope.record, Schema.RecordMap.find]
  cases hlookup : scope.records.lookup key with
  | none => simp [Json.hashable, ofSchema, eq_comm]
  | some found => simp [Json.hashable, ofSchema]

theorem missesOnly_record {key : String} (h : (Questions.missing keys).AllowsKey scope key) :
    MissesOnly scope keys (lift (scope.record key)) := by
  intro cause hraises
  have herror : scope.record key = .error (.schema cause) := hraises.of_lift
  obtain ⟨hlookup, hcause⟩ := record_eq_error_iff.1 herror
  exact ⟨key, h.missing hlookup, hlookup, Error.schema.inj hcause⟩

theorem Raises.of_remember {key : SpellingKey} {compute : Gen String} {e : Error}
    (h : Raises (Session.remember key compute) e) : Raises compute e := by
  obtain ⟨s, s', h⟩ := h
  rcases Gen.of_run_bind_error h with h | ⟨s₁, s₂, -, h⟩
  · cases h
  · split at h
    · cases h
    · rcases Gen.of_run_bind_error h with h | ⟨spelt, s₃, -, h⟩
      · exact ⟨_, _, h⟩
      · cases h

theorem className_ne_schema (record : Record) (cause : Schema.Error) :
    scope.className record ≠ .error (.schema cause) := by
  intro h
  rw [Scope.className, qualifier] at h
  cases hname : Schema.joinTexts "_" record.ancestors with
  | error e =>
    rw [hname] at h
    cases h
  | ok name =>
    rw [hname] at h
    by_cases hown : record.modulePath.same scope.origin = true
    · rw [if_pos hown] at h
      cases h
    · rw [if_neg hown] at h
      cases hpath : record.modulePath.text with
      | error e =>
        rw [hpath] at h
        cases h
      | ok path =>
        rw [hpath] at h
        cases h

theorem missesOnly_className (record : Record) :
    MissesOnly scope keys (lift (scope.className record)) :=
  .lift (className_ne_schema record)

theorem missesOnly_spell {flavor : Flavor} {type : Ty} (allFrozen : Option Bool)
    (h : (Questions.missing keys).AllowsSpelling scope flavor type) :
    MissesOnly scope keys (Session.spell scope flavor allFrozen type) := by
  let className (record : Record) : Gen String := lift (scope.className record)
  have hspell := @Simulation.spellWith _ _ _ _ _ _ (Simulation.missing scope keys)
    (Questions.missing keys) scope className className Session.remember Session.remember
    (fun hkey => (missesOnly_record hkey).rel) (fun {record} _ => (missesOnly_className record).rel)
    (fun _ hcompute => ⟨congrArg _ hcompute.1, fun cause hraises =>
      hcompute.2 cause hraises.of_remember⟩) flavor allFrozen type h
  exact hspell.2

theorem missesOnly_dartType {flavor : Flavor} {type : Ty} (allFrozen : Option Bool)
    (h : (Questions.missing keys).AllowsSpelling scope flavor type) :
    MissesOnly scope keys (Session.dartType scope type flavor allFrozen) := by
  rw [Session.dartType]
  split
  · exact missesOnly_spell allFrozen h
  · exact @MissesOnly.lift _ _ _ (.error (.mismatch type.unhashable)) (by simp)

theorem missesOnly_sanitized (sanitizer : Naming.Sanitizer) (request : Naming.Request)
    (cacheOf : NameCaches → Naming.Cache) (store : NameCaches → Naming.Cache → NameCaches) :
    MissesOnly scope keys (Session.sanitized sanitizer request cacheOf store) := by
  rintro cause ⟨s, s', h⟩
  rw [run_sanitized] at h
  exact absurd (Prod.mk.inj h).1 (ofValue_ne_schema _ cause)

theorem spells_missing (scope : Scope) (keys : List String) :
    Spells (Simulation.missing scope keys) (Questions.missing keys) (Speller.remembering scope)
      (Speller.remembering scope) scope where
  scope_eq := rfl
  fieldName _ := @MissesOnly.rel _ _ _ (Session.fieldName _) (missesOnly_sanitized _ _ _ _)
  variantName _ := @MissesOnly.rel _ _ _ (Session.variantName _) (missesOnly_sanitized _ _ _ _)
  constantName _ := @MissesOnly.rel _ _ _ (Session.constantName _) (missesOnly_sanitized _ _ _ _)
  record h := (missesOnly_record h).rel
  className _ := (missesOnly_className _).rel
  dartType allFrozen h := (missesOnly_dartType allFrozen h).rel

/-! ## Files -/

theorem missesOnly_moduleCode {module : Module}
    (h : (Questions.missing keys).AllowsModule scope module) (config : Config)
    (workingDirectory : List String) (path : String) :
    MissesOnly scope keys
      (moduleCode (Speller.remembering scope) config workingDirectory path module) :=
  ((spells_missing scope keys).moduleCode h config workingDirectory path).2

/-- The file of a module: only the code of the module looks records up. -/
theorem missesOnly_generate [Limits] {records : Schema.RecordMap} {module : Module}
    (h : ∀ path config workingDirectory, MissesOnly ⟨records, .str path⟩ keys
      (moduleCode (Speller.remembering ⟨records, .str path⟩) config workingDirectory path module))
    (origin : Json) (config : Config) (workingDirectory : List String) :
    MissesOnly ⟨records, origin⟩ keys
      (SourceFile.generate config workingDirectory records module) := by
  refine (MissesOnly.modify _).bind fun _ _ => ?_
  refine (MissesOnly.value _).bind fun unit _ => ?_
  refine (MissesOnly.modify _).bind fun _ _ => ?_
  refine (MissesOnly.value _).bind fun path _ => ?_
  refine MissesOnly.bind (h path config workingDirectory) fun fragments _ => ?_
  refine (MissesOnly.lift fun cause hlayout => ?_).bind fun laid _ => ?_
  · cases hlaid : Layout.layout unit.toList (String.join fragments).toList with
    | error e =>
      rw [hlaid] at hlayout
      cases hlayout
    | ok laid =>
      rw [hlaid] at hlayout
      cases hlayout
  · dsimp only
    split
    · refine (MissesOnly.modify _).bind fun _ _ => ?_
      exact (MissesOnly.value _).bind fun code _ => .pure _
    · exact (MissesOnly.value _).bind fun code _ => .pure _

end DartRecords.Dart
