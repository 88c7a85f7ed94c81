import DartRecords.Proofs.Imports
import DartRecords.Proofs.Words

/-!
# What generated code may be

`Outcomes` is the monad of predicates on values: a step in it says what may be returned.  Code that
is written against a source of names in this monad becomes a statement about itself, which is taken
apart like any other, with no word about sessions or memory.  The source `Speller.possible` says
what is known of each answer: class names and types are those of the scope, and no variant is called
like a member that every enum class has.  What a session returns is possible
(`possible_of_generate`).
-/

namespace DartRecords.Dart

open Naming (Sanitizer)
open Schema (Field Module Record RecordMap Ty)

/-! ## The monad of outcomes -/

/-- The values that a step may return.  A step that fails returns none. -/
def Outcomes (α : Type) : Type := α → Prop

namespace Outcomes

instance : Monad Outcomes where
  pure a := fun b => a = b
  bind step next := fun b => ∃ a, step a ∧ next a b

instance : MonadExceptOf Error Outcomes where
  throw _ := fun _ => False
  tryCatch step _ := step

variable {α β : Type}

instance : LawfulMonad Outcomes :=
  LawfulMonad.mk' Outcomes
    (fun step => funext fun b => propext ⟨fun ⟨a, ha, hb⟩ => hb ▸ ha, fun h => ⟨b, h, rfl⟩⟩)
    (fun a next => funext fun b => propext ⟨fun ⟨_, ha, hb⟩ => ha ▸ hb, fun h => ⟨a, rfl, h⟩⟩)
    (fun step next last => funext fun c => propext
      ⟨fun ⟨b, ⟨a, ha, hb⟩, hc⟩ => ⟨a, ha, b, hb, hc⟩, fun ⟨a, ha, b, hb, hc⟩ =>
        ⟨b, ⟨a, ha, hb⟩, hc⟩⟩)

theorem of_lift {result : Except Error α} {a : α} (h : (lift result : Outcomes α) a) :
    result = .ok a := by
  cases result with
  | error e => exact h.elim
  | ok b => exact congrArg _ h

theorem of_resolved {type : Option Ty} {t : Ty} (h : (resolved type : Outcomes Ty) t) :
    type = some t := by
  cases type with
  | none => exact h.elim
  | some t' => exact congrArg _ h

theorem of_mapM {step : α → Outcomes β} {items : List α} {results : List β}
    (h : (items.mapM step : Outcomes (List β)) results) :
    List.Forall₂ (fun item result => step item result) items results := by
  induction items generalizing results with
  | nil =>
    rw [List.mapM_nil] at h
    obtain rfl := h
    exact .nil
  | cons item items ih =>
    rw [List.mapM_cons] at h
    obtain ⟨first, hfirst, others, hothers, rfl⟩ := h
    exact .cons hfirst (ih hothers)

end Outcomes

/-- Steps that keep a property of sessions, related to the values that they may return. -/
def Simulation.outcomes (Inv : Session → Prop) : Simulation Gen Outcomes where
  Rel step outcomes := ∀ s a s', Inv s → step.run.run s = (.ok a, s') → Inv s' ∧ outcomes a
  MayReturn outcomes a := outcomes a
  eq_of_pure h := h
  not_mayReturn_throw h := h
  pure a := by
    intro s b s' hs hrun
    cases hrun
    exact ⟨hs, rfl⟩
  throw _ := by
    intro s b s' _ hrun
    cases hrun
  bind hstep hnext := by
    intro s b s' hs hrun
    obtain ⟨a, between, hfirst, hrun⟩ := Gen.of_run_bind hrun
    obtain ⟨hbetween, ha⟩ := hstep s a between hs hfirst
    obtain ⟨hs', hb⟩ := hnext a ha between b s' hbetween hrun
    exact ⟨hs', a, ha, hb⟩

theorem outcomes_lift {Inv : Session → Prop} (result : Except Error α) :
    (Simulation.outcomes Inv).Rel (lift result) (lift result) := by
  cases result with
  | error e =>
    intro s b s' _ hrun
    cases hrun
  | ok a => exact (Simulation.outcomes Inv).pure a

/-! ## Possible answers -/

/-- No name that has been remembered for a variant is one of the members that every enum class
has. -/
def AvoidsMembers (names : NameCaches) : Prop := ∀ entry ∈ names.variants, entry.2 ∉ enumMembers

theorem avoidsMembers_empty : AvoidsMembers {} := List.forall_mem_nil _

/-- A source whose answers are all that is possible in a scope. -/
def Speller.possible (scope : Scope) : Speller Outcomes where
  scope := scope
  fieldName _ := fun _ => True
  variantName _ := fun name => name ∉ enumMembers
  constantName _ := fun _ => True
  className record := fun name => scope.className record = .ok name
  dartType type flavor allFrozen :=
    fun spelt => Dart.dartType scope type flavor allFrozen = .ok spelt

theorem variantName_notMem {name : Json} {variant : String} (h : variantName name = .ok variant) :
    variant ∉ enumMembers := by
  obtain ⟨text, rfl⟩ : ∃ text, name = .str text := by
    cases name <;> first | exact ⟨_, rfl⟩ | cases h
  rw [variantName_str] at h
  obtain rfl := Except.ok.inj h
  generalize String.ofList (Naming.restyle .lowerCamel text.toList) = styled
  split
  · -- None of the members ends with an underscore.
    intro hmem
    have hend : ∀ member ∈ enumMembers, member.toList.getLast? ≠ some '_' := by decide
    exact hend _ hmem (by simp)
  · next hfree =>
    intro hmem
    rw [String.append_empty] at hmem
    have hreserved : variantSanitizer.isReserved (.str styled) = true :=
      (Naming.isReserved_ofTexts _ _ styled).2
        (List.mem_append_right _ (List.mem_append_right _ hmem))
    simp [hreserved] at hfree

/-- What is remembered in the file of one module: spellings that are sound, and names of variants
that are no members. -/
structure Remembers (scope : Scope) (s : Session) : Prop where
  spellings : SpellingsSound scope s
  variants : AvoidsMembers s.names

section Remembers

variable {scope : Scope}

theorem of_run_sanitized {sanitizer : Sanitizer} {request : Naming.Request}
    {cacheOf : NameCaches → Naming.Cache} {store : NameCaches → Naming.Cache → NameCaches}
    {s s' : Session} {answer : String}
    (h : (Session.sanitized sanitizer request cacheOf store).run.run s = (.ok answer, s')) :
    s' = { s with names := store s.names (sanitizer.sanitize request (cacheOf s.names)).2 } ∧
      (sanitizer.sanitize request (cacheOf s.names)).1 = .ok answer := by
  rw [run_sanitized] at h
  obtain ⟨hanswer, hs'⟩ := Prod.mk.inj h
  exact ⟨hs'.symm, mapError_eq_ok_iff.1 hanswer⟩

theorem rel_fieldName (name : Json) :
    (Simulation.outcomes (Remembers scope)).Rel (Session.fieldName name) (fun _ => True) := by
  intro s answer s' hs hrun
  rw [Session.fieldName] at hrun
  obtain ⟨rfl, -⟩ := of_run_sanitized hrun
  exact ⟨⟨hs.spellings, hs.variants⟩, trivial⟩

theorem rel_constantName (name : Json) :
    (Simulation.outcomes (Remembers scope)).Rel (Session.constantName name) (fun _ => True) := by
  intro s answer s' hs hrun
  rw [Session.constantName] at hrun
  obtain ⟨rfl, -⟩ := of_run_sanitized hrun
  exact ⟨⟨hs.spellings, hs.variants⟩, trivial⟩

/-- A name from the cache is an earlier one, and a new one is no member. -/
theorem rel_variantName (name : Json) :
    (Simulation.outcomes (Remembers scope)).Rel (Session.variantName name) (· ∉ enumMembers) := by
  intro s answer s' hs hrun
  rw [Session.variantName] at hrun
  obtain ⟨rfl, hanswer⟩ := of_run_sanitized hrun
  rw [Sanitizer.sanitize] at hanswer ⊢
  cases hlookup : s.names.variants.lookup (variantRequest name).cacheKey with
  | some found =>
    rw [hlookup] at hanswer
    cases hanswer
    obtain ⟨before, after, hentries, -⟩ := List.lookup_eq_some_iff.1 hlookup
    have hmem : ((variantRequest name).cacheKey, answer) ∈ s.names.variants := by simp [hentries]
    exact ⟨⟨hs.spellings, hs.variants⟩, hs.variants _ hmem⟩
  | none =>
    rw [hlookup] at hanswer
    cases hresolve : variantSanitizer.resolve (variantRequest name) with
    | error e =>
      rw [hresolve] at hanswer
      cases hanswer
    | ok fresh =>
      rw [hresolve] at hanswer
      cases hanswer
      have hfresh : answer ∉ enumMembers := variantName_notMem hresolve
      exact ⟨⟨hs.spellings, List.forall_mem_cons.2 ⟨hfresh, hs.variants⟩⟩, hfresh⟩

theorem spells_possible (scope : Scope) :
    Spells (Simulation.outcomes (Remembers scope)) ⟨fun _ => True, fun _ => True, fun _ => True⟩
      (Speller.remembering scope) (Speller.possible scope) scope where
  scope_eq := rfl
  fieldName _ := rel_fieldName _
  variantName _ := rel_variantName _
  constantName _ := rel_constantName _
  record _ := outcomes_lift _
  className _ s name s' hs hrun := by
    obtain ⟨hname, rfl⟩ := Gen.of_run_lift hrun
    exact ⟨hs, hname⟩
  dartType allFrozen _ s spelt s' hs hrun := by
    obtain ⟨after, ⟨hnames, hspellings⟩, hrun'⟩ :=
      gives_dartType _ _ allFrozen s ⟨rfl, hs.spellings⟩
    obtain ⟨hspelt, rfl⟩ := Prod.mk.inj (hrun'.symm.trans hrun)
    refine ⟨⟨hspellings, ?_⟩, hspelt⟩
    rw [hnames]
    exact hs.variants

end Remembers

/-! ## Files -/

/-- The code of a file is possible, and what is remembered after it is no member either. -/
theorem possible_of_generate [Limits] {config : Config} {workingDirectory : List String}
    {records : RecordMap} {module : Module} {file : SourceFile} {s s' : Session}
    (hs : AvoidsMembers s.names)
    (hrun : (SourceFile.generate config workingDirectory records module).run.run s =
      (.ok file, s')) :
    AvoidsMembers s'.names ∧ ∃ indentUnit path fragments, module.path = .str path ∧
      (moduleCode (Speller.possible ⟨records, .str path⟩) config workingDirectory path module :
        Outcomes (List String)) fragments ∧
      LaidOut config indentUnit path fragments file := by
  obtain ⟨indentUnit, path, fragments, between, after, -, hpath, hforgotten, hkept,
    hfragments, hlaid, hnames⟩ := SourceFile.steps_of_generate hrun
  have hbetween : Remembers ⟨records, .str path⟩ between := by
    refine ⟨fun key spelt hspelt => ?_, ?_⟩
    · rw [hforgotten] at hspelt
      cases hspelt
    · rw [hkept]
      exact hs
  obtain ⟨hafter, hpossible⟩ :=
    (spells_possible ⟨records, .str path⟩).moduleCode (allowsModule_all _ _) config
    workingDirectory path between fragments after hbetween hfragments
  refine ⟨?_, indentUnit, path, fragments, hpath, hpossible, hlaid⟩
  rw [hnames]
  exact hafter.variants

/-- The files of a document, one after the other. -/
theorem possible_of_files [Limits] {config : Config} {workingDirectory : List String}
    {records : RecordMap} {modules : List Module} {files : List SourceFile} {s s' : Session}
    (hs : AvoidsMembers s.names)
    (hrun : (modules.mapM (SourceFile.generate config workingDirectory records)).run.run s =
      (.ok files, s')) :
    AvoidsMembers s'.names ∧
      List.Forall₂ (fun module file => ∃ indentUnit path fragments, module.path = .str path ∧
        (moduleCode (Speller.possible ⟨records, .str path⟩) config workingDirectory path module :
          Outcomes (List String)) fragments ∧
        LaidOut config indentUnit path fragments file) modules files := by
  induction modules generalizing files s s' with
  | nil =>
    rw [List.mapM_nil] at hrun
    cases hrun
    exact ⟨hs, .nil⟩
  | cons module modules ih =>
    rw [List.mapM_cons] at hrun
    obtain ⟨file, between, hfile, hrun⟩ := Gen.of_run_bind hrun
    obtain ⟨others, after, hothers, hrun⟩ := Gen.of_run_bind hrun
    cases hrun
    obtain ⟨hbetween, hcode⟩ := possible_of_generate hs hfile
    obtain ⟨hs', hcodes⟩ := ih hbetween hothers
    exact ⟨hs', .cons hcode hcodes⟩

end DartRecords.Dart
