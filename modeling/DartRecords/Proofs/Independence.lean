import DartRecords.Generation.Basic
import DartRecords.Proofs.Balance

/-!
# Files do not depend on history

The names of struct fields, enum variants and constants are remembered as long as the program runs,
by all generations together.  What has been remembered changes no file: after any calls that ask for
names which are texts, the caches are sound (`Reachable.namesSound`), and from sound caches the
files of a document are those that are computed without a memory.  So each file depends on its own
module and on the records, and modules may be generated together or one after another
(`files_independent_of_history`).
-/

namespace DartRecords.Dart

open Schema (Document Field Module Record RecordMap)

/-! ## Calls that ask for names -/

/-- All names that the code of the modules asks for are texts: those of fields, variants and
constants, the parts of key paths, and the fields of the structs that variants wrap. -/
def NamedByTexts (records : RecordMap) (modules : List Module) : Prop :=
  ∀ module ∈ modules, Questions.texts.AllowsModule ⟨records, module.path⟩ module

/-- The step asks for one name that is a text, or for the warnings about a document, its files, or
both, where all names are texts. -/
inductive AsksForTexts : {α : Type} → Gen α → Prop
  | fieldName (name : String) : AsksForTexts (Session.fieldName (.str name))
  | variantName (name : String) : AsksForTexts (Session.variantName (.str name))
  | constantName (name : String) : AsksForTexts (Session.constantName (.str name))
  | warnings {document : Document} (h : NamedByTexts document.records document.modules) :
      AsksForTexts (Dart.warnings Namer.remembering document)
  | files [Limits] (config : Config) (workingDirectory : List String) {document : Document}
      (h : NamedByTexts document.records document.modules) :
      AsksForTexts ((Backend.dart workingDirectory).files config document)
  | generation [Limits] (config : Config) (workingDirectory : List String) {document : Document}
      (h : NamedByTexts document.records document.modules) :
      AsksForTexts (Generation.attempt (Backend.dart workingDirectory) config document)

/-- Calls that ask for texts lead from the empty caches to these, whether they succeed or fail. -/
inductive Reachable : NameCaches → Prop
  | empty : Reachable {}
  | call {α : Type} {step : Gen α} (hstep : AsksForTexts step) {s : Session}
    (h : Reachable s.names) :
      Reachable (step.run.run s).2.names

/-! ## Calls keep the caches sound -/

/-- The step keeps a property of sessions, whether it succeeds or fails. -/
def Keeps {α : Type} (Inv : Session → Prop) (step : Gen α) : Prop :=
  ∀ s, Inv s → Inv (step.run.run s).2

section Keeps

variable {α β : Type} {Inv : Session → Prop}

theorem Gives.keeps {step : Gen α} {result : Except Error α} (h : Gives Inv Inv step result) :
    Keeps Inv step := by
  intro s hs
  obtain ⟨s', hs', hrun⟩ := h s hs
  rw [hrun]
  exact hs'

theorem Keeps.pure (a : α) : Keeps Inv (Pure.pure a) := fun _ hs => hs

theorem Keeps.lift (result : Except Error α) : Keeps Inv (Dart.lift result) :=
  (Gives.lift (fun _ => id) result).keeps

theorem Keeps.bind {step : Gen α} {next : α → Gen β} (h : Keeps Inv step)
    (hnext : ∀ a, Keeps Inv (next a)) : Keeps Inv (step >>= next) := by
  intro s hs
  have hs' := h s hs
  rw [Gen.run_bind]
  generalize step.run.run s = outcome at hs' ⊢
  obtain ⟨e | a, s'⟩ := outcome
  · exact hs'
  · exact hnext a s' hs'

theorem Keeps.ite {c : Prop} [Decidable c] {step other : Gen α} (h : Keeps Inv step)
    (hother : Keeps Inv other) : Keeps Inv (if c then step else other) := by
  split
  · exact h
  · exact hother

theorem Keeps.mapM {step : α → Gen β} {items : List α} (h : ∀ item ∈ items, Keeps Inv (step item)) :
    Keeps Inv (items.mapM step) := by
  induction items with
  | nil =>
    rw [List.mapM_nil]
    exact Keeps.pure []
  | cons item rest ih =>
    rw [List.mapM_cons]
    refine (h item List.mem_cons_self).bind fun first => ?_
    exact (ih fun other hother => h other (List.mem_cons_of_mem _ hother)).bind fun _ =>
      Keeps.pure _

theorem keeps_log (level : Log.Level) (origin : Log.Origin) (message : String) :
    Keeps NamesSound (Session.log level origin message) :=
  fun _ hs => hs.add _

theorem keeps_logs (level : Log.Level) (origin : Log.Origin) (messages : List String) :
    Keeps NamesSound (messages.forM (Session.log level origin)) := by
  induction messages with
  | nil => exact Keeps.pure ()
  | cons message rest ih => exact (keeps_log level origin message).bind fun _ => ih

end Keeps

section Calls

theorem keeps_fieldWarnings {f : Field} (hname : IsText f.name) (record : Record) :
    Keeps NamesSound (fieldWarnings Namer.remembering record f) := by
  rw [fieldWarnings]
  split
  · refine (allowsNames_namesSound.fieldName hname).keeps.bind fun name => ?_
    exact Keeps.ite ((Keeps.lift _).bind fun _ => Keeps.pure _) (Keeps.pure _)
  · refine (allowsNames_namesSound.variantName hname).keeps.bind fun name => ?_
    exact Keeps.ite ((Keeps.lift _).bind fun _ => Keeps.pure _) (Keeps.pure _)

theorem keeps_recordWarnings {record : Record} (hnames : ∀ f ∈ record.fields, IsText f.name) :
    Keeps NamesSound (recordWarnings Namer.remembering record) := by
  refine (Keeps.mapM fun f hf => ?_).bind fun _ => Keeps.pure _
  exact keeps_fieldWarnings (hnames f hf) record

theorem keeps_moduleWarnings {module : Module}
    (hnames : ∀ record ∈ module.records, ∀ f ∈ record.fields, IsText f.name) :
    Keeps NamesSound (moduleWarnings Namer.remembering module) := by
  refine (Keeps.lift _).bind fun own => ?_
  refine (Keeps.mapM fun record hrecord => ?_).bind fun _ => Keeps.pure _
  exact keeps_recordWarnings (hnames record hrecord)

variable {document : Document} (h : NamedByTexts document.records document.modules)

include h

theorem keeps_warnings : Keeps NamesSound (warnings Namer.remembering document) := by
  refine (Keeps.lift _).bind fun general => ?_
  refine (Keeps.mapM fun module hmodule => keeps_moduleWarnings ?_).bind fun _ => Keeps.pure _
  intro record hrecord f hf
  exact (((h module hmodule).record record hrecord).field f hf).name

theorem keeps_files [Limits] (config : Config) (workingDirectory : List String) :
    Keeps NamesSound ((Backend.dart workingDirectory).files config document) :=
  (gives_files config workingDirectory h).keeps

theorem keeps_attempt [Limits] (config : Config) (workingDirectory : List String) :
    Keeps NamesSound (Generation.attempt (Backend.dart workingDirectory) config document) := by
  refine (keeps_warnings h).bind fun warnings => ?_
  refine (keeps_logs .warning .generation warnings).bind fun _ => ?_
  refine (keeps_files h config workingDirectory).bind fun files => ?_
  exact (keeps_log _ _ _).bind fun _ => Keeps.pure _

end Calls

/-- A call that asks for texts keeps the caches sound. -/
theorem AsksForTexts.keeps {α : Type} {step : Gen α} (h : AsksForTexts step) :
    Keeps NamesSound step := by
  cases h with
  | fieldName name => exact (allowsNames_namesSound.fieldName ⟨name, rfl⟩).keeps
  | variantName name => exact (allowsNames_namesSound.variantName ⟨name, rfl⟩).keeps
  | constantName name => exact (allowsNames_namesSound.constantName ⟨name, rfl⟩).keeps
  | warnings h => exact keeps_warnings h
  | files config workingDirectory h => exact keeps_files h config workingDirectory
  | generation config workingDirectory h => exact keeps_attempt h config workingDirectory

/-- Whatever has been asked for, the caches are sound. -/
theorem Reachable.namesSound {names : NameCaches} (h : Reachable names) {s : Session}
    (hs : s.names = names) : NamesSound s := by
  induction h generalizing s with
  | empty => exact namesSound_empty.of_names_eq hs
  | @call _ _ hstep before _ ih => exact (hstep.keeps before (ih rfl)).of_names_eq hs

/-- What sound caches do not change is the same whatever has been asked for. -/
theorem Reachable.run_eq {s : Session} (hs : Reachable s.names) {α : Type} {step : Gen α}
    {result : Except Error α} (h : Gives NamesSound NamesSound step result) :
    (step.run.run s).1 = result := by
  obtain ⟨s', -, hrun⟩ := h s (hs.namesSound rfl)
  rw [hrun]

/-! ## Files -/

/-- The files that are generated for modules in a session. -/
def filesFrom [Limits] (config : Config) (workingDirectory : List String) (records : RecordMap)
    (s : Session) (modules : List Module) : Except Error (List SourceFile) :=
  (((Backend.dart workingDirectory).files config { modules, records }).run.run s).1

theorem filesFrom_eq [Limits] (config : Config) (workingDirectory : List String)
    {records : RecordMap} {modules : List Module} (h : NamedByTexts records modules) {s : Session}
    (hs : NamesSound s) :
    filesFrom config workingDirectory records s modules =
      modules.mapM (SourceFile.ofModule config workingDirectory records) := by
  obtain ⟨s', -, hrun⟩ := @gives_files _ config workingDirectory { modules, records } h s hs
  rw [filesFrom, hrun]

/-- After any history of calls, the files of two lists of modules are those of the one and of the
other, each generated with empty caches; if one of them has no files, they have none, for the same
reason. -/
theorem files_independent_of_history [Limits] {s : Session} (hs : Reachable s.names)
    (config : Config) (workingDirectory : List String) {records : RecordMap}
    {firsts seconds : List Module} (hfirsts : NamedByTexts records firsts)
    (hseconds : NamedByTexts records seconds) :
    filesFrom config workingDirectory records s (firsts ++ seconds) = (do
      let files ← filesFrom config workingDirectory records {} firsts
      let others ← filesFrom config workingDirectory records {} seconds
      pure (files ++ others)) := by
  have hboth : NamedByTexts records (firsts ++ seconds) :=
    List.forall_mem_append.2 ⟨hfirsts, hseconds⟩
  rw [filesFrom_eq config workingDirectory hboth (hs.namesSound rfl),
    filesFrom_eq config workingDirectory hfirsts namesSound_empty,
    filesFrom_eq config workingDirectory hseconds namesSound_empty, List.mapM_append]

section

attribute [local instance] Limits.usual

/-- A generation of the code for the shapes. -/
def shapesGeneration : Gen Generated := Generation.attempt (Backend.dart []) {} shapesDocument

theorem namedByTexts_shapes : NamedByTexts shapesDocument.records shapesDocument.modules := by
  have hdocument : WellFormed shapesDocument := by decide
  intro module hmodule
  exact @WellFormedModule.allows ⟨shapesDocument.records, module.path⟩ hdocument.record module
    (hdocument.module module hmodule)

theorem reachable_shapes : Reachable (shapesGeneration.run.run {}).2.names := by
  have hgeneration : AsksForTexts shapesGeneration := .generation {} [] namedByTexts_shapes
  exact Reachable.call hgeneration Reachable.empty

theorem shapes_independent_of_history : Reachable (shapesGeneration.run.run {}).2.names ∧
    NamedByTexts shapesDocument.records (shapesDocument.modules.take 1) ∧
    NamedByTexts shapesDocument.records (shapesDocument.modules.drop 1) ∧
    filesFrom {} ["tmp"] shapesDocument.records (shapesGeneration.run.run {}).2
        (shapesDocument.modules.take 1 ++ shapesDocument.modules.drop 1) = (do
      let files ← filesFrom {} ["tmp"] shapesDocument.records {} (shapesDocument.modules.take 1)
      let others ← filesFrom {} ["tmp"] shapesDocument.records {} (shapesDocument.modules.drop 1)
      pure (files ++ others)) := by
  have hfirsts : NamedByTexts shapesDocument.records (shapesDocument.modules.take 1) :=
    fun module hmodule => namedByTexts_shapes module (List.mem_of_mem_take hmodule)
  have hseconds : NamedByTexts shapesDocument.records (shapesDocument.modules.drop 1) :=
    fun module hmodule => namedByTexts_shapes module (List.mem_of_mem_drop hmodule)
  exact ⟨reachable_shapes, hfirsts, hseconds,
    files_independent_of_history reachable_shapes {} ["tmp"] hfirsts hseconds⟩

end

end DartRecords.Dart
