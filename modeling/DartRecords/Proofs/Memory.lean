import DartRecords.Generation.Backend
import DartRecords.Proofs.Returns
import DartRecords.Proofs.Simulation
import DartRecords.Proofs.Spellings

/-!
# Remembered names and spellings

A session is sound if what it remembers is what would be computed.  Then an answer from memory is no
different from a fresh one, and every step leaves the session sound.  So the files that are
generated with a memory are those that are generated without (`gives_files`).

The cache of a sanitizer is sound for names that are texts only: its keys are texts, and a loose
value may have the display text of another name.
-/

namespace DartRecords.Dart

open Naming (Cache Request Sanitizer)
open Schema (Document Module Ty)

/-! ## Steps that keep a session as it should be -/

/-- From every session that satisfies the first predicate, the step gives the plain result and a
session that satisfies the second one. -/
def Gives {α : Type} (Before After : Session → Prop) (step : Gen α) (result : Except Error α) :
    Prop :=
  ∀ s, Before s → ∃ s', After s' ∧ step.run.run s = (result, s')

namespace Gives

variable {α β : Type} {Before Between After : Session → Prop}

theorem bind {step : Gen α} {result : Except Error α} {next : α → Gen β}
    {nextResult : α → Except Error β} (hstep : Gives Before Between step result)
    (hnext : ∀ a, result = .ok a → Gives Between After (next a) (nextResult a))
    (hafter : ∀ s, Between s → After s) :
    Gives Before After (step >>= next) (result >>= nextResult) := by
  intro s hs
  obtain ⟨s', hs', hrun⟩ := hstep s hs
  cases result with
  | error e =>
    refine ⟨s', hafter s' hs', ?_⟩
    rw [Gen.run_bind, hrun]
    rfl
  | ok a =>
    obtain ⟨s'', hs'', hrun'⟩ := hnext a rfl s' hs'
    refine ⟨s'', hs'', ?_⟩
    rw [Gen.run_bind, hrun]
    exact hrun'

theorem imp {Before' After' : Session → Prop} {step : Gen α} {result : Except Error α}
    (h : Gives Before After step result) (hbefore : ∀ s, Before' s → Before s)
    (hafter : ∀ s, After s → After' s) : Gives Before' After' step result := by
  intro s hs
  obtain ⟨s', hs', hrun⟩ := h s (hbefore s hs)
  exact ⟨s', hafter s' hs', hrun⟩

theorem lift (hafter : ∀ s, Before s → After s) (result : Except Error α) :
    Gives Before After (Dart.lift result) result := by
  intro s hs
  cases result with
  | error e => exact ⟨s, hafter s hs, rfl⟩
  | ok a => exact ⟨s, hafter s hs, rfl⟩

/-- A change of the session comes first. -/
theorem modify_bind {change : Session → Session} {next : Unit → Gen α} {result : Except Error α}
    (hchange : ∀ s, Before s → Between (change s)) (hnext : Gives Between After (next ()) result) :
    Gives Before After (modify change >>= next) result := by
  intro s hs
  obtain ⟨s', hs', hrun⟩ := hnext (change s) (hchange s hs)
  refine ⟨s', hs', ?_⟩
  rw [Gen.run_bind]
  exact hrun

end Gives

/-- Steps that keep a property of sessions, related to the results that they give. -/
def Simulation.keeping (Inv : Session → Prop) : Simulation Gen (Except Error) where
  Rel := Gives Inv Inv
  MayReturn result a := result = .ok a
  eq_of_pure := Except.ok.inj
  not_mayReturn_throw h := by cases h
  pure _ := fun s hs => ⟨s, hs, rfl⟩
  throw _ := fun s hs => ⟨s, hs, rfl⟩
  bind hstep hnext := hstep.bind hnext fun _ => id

theorem keeping_lift {α : Type} (Inv : Session → Prop) (result : Except Error α) :
    (Simulation.keeping Inv).Rel (lift result) (lift result) := by
  cases result with
  | error e => exact fun s hs => ⟨s, hs, rfl⟩
  | ok a => exact fun s hs => ⟨s, hs, rfl⟩

/-! ## Names -/

/-- What a cache holds for a text is what the sanitizer would answer. -/
def CacheSound (sanitizer : Sanitizer) (request : Json → Request) (cache : Cache) : Prop :=
  ∀ name answer : String, cache.lookup (request (.str name)).cacheKey = some answer →
    sanitizer.resolve (request (.str name)) = .ok answer

/-- The key of a text starts with that text, so no two texts share a key. -/
theorem cacheKey_injective (r : Request) {first second : String}
    (h : { r with name := .str first }.cacheKey = { r with name := .str second }.cacheKey) :
    first = second := by
  simpa only [Request.cacheKey, Json.display, String.intercalate_cons_cons, String.append_assoc,
    String.append_left_inj] using h

/-- A sound cache answers like the sanitizer, and stays sound. -/
theorem CacheSound.sanitize {sanitizer : Sanitizer} {request : Json → Request} {cache : Cache}
    (h : CacheSound sanitizer request cache) (r : Request)
    (hrequest : ∀ v, request v = { r with name := v }) (name : String) :
    ∃ cache', sanitizer.sanitize (request (.str name)) cache =
        (sanitizer.resolve (request (.str name)), cache') ∧
      CacheSound sanitizer request cache' := by
  rw [Sanitizer.sanitize]
  cases hlookup : cache.lookup (request (.str name)).cacheKey with
  | some answer => exact ⟨cache, by rw [h name answer hlookup], h⟩
  | none =>
    cases hresolve : sanitizer.resolve (request (.str name)) with
    | error e => exact ⟨cache, rfl, h⟩
    | ok answer =>
      refine ⟨((request (.str name)).cacheKey, answer) :: cache, rfl,
        fun other answer' hother => ?_⟩
      by_cases hsame : (request (.str other)).cacheKey = (request (.str name)).cacheKey
      · rw [hsame, List.lookup_cons_self] at hother
        cases hother
        rw [hrequest, hrequest] at hsame
        rw [cacheKey_injective r hsame, hresolve]
      · rw [lookup_cons_of_ne hsame] at hother
        exact h other answer' hother

/-- All three caches are sound. -/
structure NamesSound (s : Session) : Prop where
  fields : CacheSound fieldSanitizer fieldRequest s.names.fields
  variants : CacheSound variantSanitizer variantRequest s.names.variants
  constants : CacheSound constantSanitizer constantRequest s.names.constants

/-- Whether the caches are sound does not depend on what else a session holds. -/
theorem NamesSound.of_names_eq {s t : Session} (h : NamesSound s) (hnames : t.names = s.names) :
    NamesSound t := by
  refine ⟨?_, ?_, ?_⟩
  · rw [hnames]
    exact h.fields
  · rw [hnames]
    exact h.variants
  · rw [hnames]
    exact h.constants

theorem cacheSound_nil (sanitizer : Sanitizer) (request : Json → Request) :
    CacheSound sanitizer request [] := by
  intro name answer h
  cases h

theorem namesSound_empty : NamesSound {} :=
  ⟨cacheSound_nil _ _, cacheSound_nil _ _, cacheSound_nil _ _⟩

/-! ## Spellings -/

/-- The spellings that the session remembers are those of the file of one module. -/
def SpellingsSound (scope : Scope) (s : Session) : Prop :=
  ∀ key spelt, s.spellings.lookup key = some spelt →
    spell scope key.flavor key.allFrozen key.type = .ok spelt

/-- What the session remembers is what would be computed in the file of one module. -/
structure Sound (scope : Scope) (s : Session) : Prop extends NamesSound s where
  spellings : SpellingsSound scope s

/-- The session remembers the names, and spellings that are sound. -/
def Recalls (scope : Scope) (names : NameCaches) (s : Session) : Prop :=
  s.names = names ∧ SpellingsSound scope s

variable {scope : Scope} {names : NameCaches}

/-- A step that changes no names keeps a session sound. -/
theorem Gives.of_recalls {α : Type} {step : Gen α} {result : Except Error α}
    (h : ∀ names, Gives (Recalls scope names) (Recalls scope names) step result) :
    Gives (Sound scope) (Sound scope) step result := by
  intro s hs
  obtain ⟨s', ⟨hnames, hspellings⟩, hrun⟩ := h s.names s ⟨rfl, hs.spellings⟩
  exact ⟨s', ⟨hs.toNamesSound.of_names_eq hnames, hspellings⟩, hrun⟩

/-- Asking a sanitizer changes its cache only. -/
theorem run_sanitized (sanitizer : Sanitizer) (request : Request) (cacheOf : NameCaches → Cache)
    (store : NameCaches → Cache → NameCaches) (s : Session) :
    (Session.sanitized sanitizer request cacheOf store).run.run s =
      (ofValue (sanitizer.sanitize request (cacheOf s.names)).1,
        { s with names := store s.names (sanitizer.sanitize request (cacheOf s.names)).2 }) := by
  have hrun : (Session.sanitized sanitizer request cacheOf store).run.run s =
      (lift (ofValue (sanitizer.sanitize request (cacheOf s.names)).1) : Gen String).run.run
        { s with names := store s.names (sanitizer.sanitize request (cacheOf s.names)).2 } := rfl
  rw [hrun]
  rcases sanitizer.sanitize request (cacheOf s.names) with ⟨e | a, cache⟩
  · rfl
  · rfl

/-- A name that is a text is answered as if it were asked for the first time, if the cache is sound
and stays so. -/
theorem gives_sanitized {Inv : Session → Prop} {sanitizer : Sanitizer} (request : Json → Request)
    {cacheOf : NameCaches → Cache} (store : NameCaches → Cache → NameCaches) (r : Request)
    (hrequest : ∀ v, request v = { r with name := v }) {name : Json} (hname : IsText name)
    (hcache : ∀ s, Inv s → CacheSound sanitizer request (cacheOf s.names))
    (hstore : ∀ s cache, Inv s → CacheSound sanitizer request cache →
      Inv { s with names := store s.names cache }) :
    Gives Inv Inv (Session.sanitized sanitizer (request name) cacheOf store)
      (ofValue (sanitizer.resolve (request name))) := by
  obtain ⟨text, rfl⟩ := hname
  intro s hs
  obtain ⟨cache, hsanitize, hsound⟩ := (hcache s hs).sanitize r hrequest text
  refine ⟨{ s with names := store s.names cache }, hstore s cache hs hsound, ?_⟩
  rw [run_sanitized, hsanitize]

/-- The property implies that the caches are sound, and it holds with any others that are. -/
structure AllowsNames (Inv : Session → Prop) : Prop where
  sound : ∀ {s}, Inv s → NamesSound s
  exchange : ∀ {s names}, Inv s → NamesSound { s with names } → Inv { s with names }

theorem allowsNames_namesSound : AllowsNames NamesSound := ⟨id, fun _ h => h⟩

theorem allowsNames_sound (scope : Scope) : AllowsNames (Sound scope) where
  sound h := h.toNamesSound
  exchange h hnames := { hnames with spellings := h.spellings }

namespace AllowsNames

variable {Inv : Session → Prop} (h : AllowsNames Inv) {name : Json} (hname : IsText name)

include h hname

theorem fieldName : Gives Inv Inv (Session.fieldName name) (ofValue (Dart.fieldName name)) :=
  gives_sanitized fieldRequest (fun names cache => { names with fields := cache })
    (fieldRequest .null)
    (fun _ => rfl) hname (fun _ hs => (h.sound hs).fields) fun _ _ hs hcache =>
    h.exchange hs { h.sound hs with fields := hcache }

theorem variantName : Gives Inv Inv (Session.variantName name) (ofValue (Dart.variantName name)) :=
  gives_sanitized variantRequest (fun names cache => { names with variants := cache })
    (variantRequest .null) (fun _ => rfl) hname (fun _ hs => (h.sound hs).variants)
    fun _ _ hs hcache => h.exchange hs { h.sound hs with variants := hcache }

theorem constantName :
    Gives Inv Inv (Session.constantName name) (ofValue (Dart.constantName name)) :=
  gives_sanitized constantRequest (fun names cache => { names with constants := cache })
    (constantRequest .null) (fun _ => rfl) hname (fun _ hs => (h.sound hs).constants)
    fun _ _ hs hcache => h.exchange hs { h.sound hs with constants := hcache }

end AllowsNames

theorem run_remember (key : SpellingKey) (compute : Gen String) (s : Session) :
    (Session.remember key compute).run.run s =
      match s.spellings.lookup key with
      | some spelt => (.ok spelt, s)
      | none =>
        match compute.run.run s with
        | (.ok spelt, s') => (.ok spelt, { s' with spellings := (key, spelt) :: s'.spellings })
        | (.error e, s') => (.error e, s') := by
  let store (spelt : String) : Gen String := do
    modify fun s => { s with spellings := (key, spelt) :: s.spellings }
    pure spelt
  have hrun : (Session.remember key compute).run.run s =
      (match s.spellings.lookup key with
        | some spelt => (pure spelt : Gen String)
        | none => compute >>= store).run.run s := rfl
  rw [hrun]
  cases s.spellings.lookup key with
  | some spelt => rfl
  | none =>
    dsimp only
    rw [Gen.run_bind]
    rcases compute.run.run s with ⟨e | spelt, s'⟩
    · rfl
    · rfl

/-- A remembered spelling is as good as a fresh one. -/
theorem gives_remember {key : SpellingKey} {compute : Gen String}
    (h : Gives (Recalls scope names) (Recalls scope names) compute
      (spell scope key.flavor key.allFrozen key.type)) :
    Gives (Recalls scope names) (Recalls scope names) (Session.remember key compute)
      (spell scope key.flavor key.allFrozen key.type) := by
  intro s hs
  rw [run_remember]
  cases hlookup : s.spellings.lookup key with
  | some spelt => exact ⟨s, hs, by rw [hs.2 key spelt hlookup]⟩
  | none =>
    obtain ⟨s', hs', hrun⟩ := h s hs
    rw [hrun]
    cases hspelt : spell scope key.flavor key.allFrozen key.type with
    | error e => exact ⟨s', hs', rfl⟩
    | ok spelt =>
      refine ⟨{ s' with spellings := (key, spelt) :: s'.spellings },
        ⟨hs'.1, fun key' spelt' hlookup' => ?_⟩, rfl⟩
      by_cases hkey : key' = key
      · rw [hkey, List.lookup_cons_self] at hlookup'
        cases hlookup'
        rw [hkey, hspelt]
      · rw [lookup_cons_of_ne hkey] at hlookup'
        exact hs'.2 key' spelt' hlookup'

/-- The questions whose names are texts. -/
def Questions.texts : Questions := ⟨IsText, fun _ => True, fun _ => True⟩

theorem Questions.texts_allowsKey (scope : Scope) (key : String) : texts.AllowsKey scope key :=
  ⟨fun _ _ => trivial, fun _ => trivial⟩

theorem gives_spell (flavor : Flavor) (allFrozen : Option Bool) (type : Ty) :
    Gives (Recalls scope names) (Recalls scope names) (Session.spell scope flavor allFrozen type)
      (spell scope flavor allFrozen type) := by
  refine @Simulation.spellWith _ _ _ _ _ _ (Simulation.keeping (Recalls scope names))
    Questions.texts scope _ _ _ _ (fun _ => keeping_lift _ _) (fun _ => Gives.lift (fun _ => id) _)
    ?_ _ _ _ (fun key _ => Questions.texts_allowsKey scope key)
  intro type flavor allFrozen compute compute' hspelt h
  have hspelt : spell scope flavor allFrozen type = compute' := hspelt
  subst hspelt
  exact @gives_remember _ _ ⟨type, flavor, allFrozen⟩ _ h

theorem gives_dartType (type : Ty) (flavor : Flavor) (allFrozen : Option Bool) :
    Gives (Recalls scope names) (Recalls scope names) (Session.dartType scope type flavor allFrozen)
      (dartType scope type flavor allFrozen) := by
  rw [Session.dartType, dartType]
  split
  · exact gives_spell flavor allFrozen type
  · exact (Simulation.keeping (Recalls scope names)).throw (by simp)

/-- A sound session answers as if it had no memory. -/
theorem spells_remembering (scope : Scope) :
    Spells (Simulation.keeping (Sound scope)) Questions.texts (Speller.remembering scope)
      (Speller.plain scope) scope where
  scope_eq := rfl
  fieldName hname := (allowsNames_sound scope).fieldName hname
  variantName hname := (allowsNames_sound scope).variantName hname
  constantName hname := (allowsNames_sound scope).constantName hname
  record _ := keeping_lift _ _
  className _ := Gives.lift (fun _ => id) _
  dartType allFrozen _ := Gives.of_recalls fun _ => gives_dartType _ _ allFrozen

/-! ## Files -/

theorem NamesSound.add {s : Session} (hs : NamesSound s) (entry : Log.Entry) :
    NamesSound (s.add entry) :=
  ⟨hs.fields, hs.variants, hs.constants⟩

theorem NamesSound.sound {s : Session} (hs : NamesSound s) (scope : Scope) :
    Sound scope { s with spellings := [] } where
  fields := hs.fields
  variants := hs.variants
  constants := hs.constants
  spellings key spelt h := by cases h

theorem Sound.add {s : Session} (hs : Sound scope s) (entry : Log.Entry) :
    Sound scope (s.add entry) :=
  { hs.toNamesSound.add entry with spellings := hs.spellings }

/-- The file that is generated with a memory is the one that is generated without, and the memory
of names stays sound. -/
theorem gives_generate [Limits] (config : Config) (workingDirectory : List String)
    (records : Schema.RecordMap) {module : Module}
    (hmodule : Questions.texts.AllowsModule ⟨records, module.path⟩ module) :
    Gives NamesSound NamesSound (SourceFile.generate config workingDirectory records module)
      (SourceFile.ofModule config workingDirectory records module) := by
  let scope : Scope := ⟨records, module.path⟩
  refine @Gives.modify_bind _ _ NamesSound _ _ _ _ (fun s hs => hs.add _) ?_
  refine Gives.bind (Gives.lift (fun _ => id) _) (fun unit _ => ?_) fun _ => id
  refine @Gives.modify_bind _ _ (Sound scope) _ _ _ _ (fun s hs => hs.sound scope) ?_
  -- From here on the session is sound for the scope of the module.
  suffices h : Gives (Sound scope) (Sound scope) _ _ from
    h.imp (fun _ => id) fun _ hs => hs.toNamesSound
  let sim := Simulation.keeping (Sound scope)
  have hlift {α : Type} (result : Except Error α) : sim.Rel (lift result) result :=
    Gives.lift (fun _ => id) result
  refine sim.bind (hlift _) fun path hpath => ?_
  have hscope : (⟨records, .str path⟩ : Scope) = scope := by
    rw [← text_eq_ok (mapError_eq_ok_iff.1 hpath)]
  rw [hscope]
  refine sim.bind ((spells_remembering scope).moduleCode hmodule config workingDirectory path)
    fun fragments _ => ?_
  refine sim.bind (hlift _) fun laid _ => ?_
  dsimp only
  split
  · refine @Gives.modify_bind _ _ (Sound scope) _ _ _ _ (fun s hs => hs.add _) ?_
    exact sim.bind (hlift _) fun code _ => sim.pure _
  · exact sim.bind (hlift _) fun code _ => sim.pure _

/-- The files of a document are those that are computed without any memory. -/
theorem gives_files [Limits] (config : Config) (workingDirectory : List String)
    {document : Document} (hnames : ∀ module ∈ document.modules,
      Questions.texts.AllowsModule ⟨document.records, module.path⟩ module) :
    Gives NamesSound NamesSound ((Backend.dart workingDirectory).files config document)
      (document.modules.mapM (SourceFile.ofModule config workingDirectory document.records)) :=
  (Simulation.keeping NamesSound).mapM fun module hmodule =>
    gives_generate config workingDirectory document.records (hnames module hmodule)

end DartRecords.Dart
