import DartRecords.Dart.SourceFile
import DartRecords.Proofs.ListRelations

/-!
# Steps that return

`Returns step a` says that a step of generation returns `a` from some session.  What a step has
remembered does not matter to it, so a step that is made of others is taken apart by the lemmas here
without a word about sessions: `of_bind`, `of_mapM`, `of_pure` and `of_lift`.  `Raises step e` says
the same of a fault, and has the same lemmas.
-/

namespace DartRecords.Dart

/-- The step returns the value from some session. -/
def Returns {α : Type} (step : Gen α) (a : α) : Prop := ∃ s s', step.run.run s = (.ok a, s')

variable {α β : Type}

theorem Gen.run_bind (step : Gen α) (next : α → Gen β) (s : Session) :
    (step >>= next).run.run s =
      match step.run.run s with
      | (.ok a, s') => (next a).run.run s'
      | (.error e, s') => (.error e, s') := by
  rw [ExceptT.run_bind, StateT.run_bind]
  rcases step.run.run s with ⟨_ | _, _⟩ <;> rfl

/-- Where two steps return, the first one does, and the second one from the session after it. -/
theorem Gen.of_run_bind {step : Gen α} {next : α → Gen β} {s s' : Session} {b : β}
    (h : (step >>= next).run.run s = (.ok b, s')) :
    ∃ a between, step.run.run s = (.ok a, between) ∧ (next a).run.run between = (.ok b, s') := by
  rw [Gen.run_bind] at h
  rcases hstep : step.run.run s with ⟨e | a, between⟩
  · rw [hstep] at h
    cases h
  · rw [hstep] at h
    exact ⟨a, between, rfl, h⟩

theorem Gen.of_run_lift {result : Except Error α} {s s' : Session} {a : α}
    (h : (lift result : Gen α).run.run s = (.ok a, s')) : result = .ok a ∧ s = s' := by
  cases result with
  | error e => cases h
  | ok b => cases h; exact ⟨rfl, rfl⟩

theorem Gen.exists_run_of_toBool {step : Gen α} {s : Session}
    (h : (step.run.run s).1.toBool = true) : ∃ a s', step.run.run s = (.ok a, s') := by
  rcases hrun : step.run.run s with ⟨e | a, s'⟩
  · rw [hrun] at h
    cases h
  · exact ⟨a, s', rfl⟩

namespace Returns

theorem of_bind {step : Gen α} {next : α → Gen β} {b : β} (h : Returns (step >>= next) b) :
    ∃ a, Returns step a ∧ Returns (next a) b := by
  obtain ⟨s, s', h⟩ := h
  obtain ⟨a, between, hstep, hnext⟩ := Gen.of_run_bind h
  exact ⟨a, ⟨s, between, hstep⟩, between, s', hnext⟩

theorem of_pure {a b : α} (h : Returns (pure a) b) : a = b := by
  obtain ⟨s, s', h⟩ := h
  cases h
  rfl

theorem of_lift {result : Except Error α} {a : α} (h : Returns (lift result) a) :
    result = .ok a := by
  obtain ⟨s, s', h⟩ := h
  exact (Gen.of_run_lift h).1

theorem of_resolved {type : Option Schema.Ty} {t : Schema.Ty} (h : Returns (resolved type) t) :
    type = some t := by
  cases type with
  | none =>
    obtain ⟨s, s', h⟩ := h
    cases h
  | some t' => rw [of_pure h]

/-- A step that is made for each item returns the values of all of them. -/
theorem of_mapM {step : α → Gen β} {items : List α} {results : List β}
    (h : Returns (items.mapM step) results) :
    List.Forall₂ (fun item result => Returns (step item) result) items results := by
  induction items generalizing results with
  | nil =>
    rw [List.mapM_nil] at h
    cases of_pure h
    exact .nil
  | cons item items ih =>
    rw [List.mapM_cons] at h
    obtain ⟨first, hfirst, h⟩ := of_bind h
    obtain ⟨others, hothers, h⟩ := of_bind h
    cases of_pure h
    exact .cons hfirst (ih hothers)

end Returns

/-! ## Steps that raise a fault -/

/-- The step raises the fault from some session. -/
def Raises {α : Type} (step : Gen α) (e : Error) : Prop := ∃ s s', step.run.run s = (.error e, s')

/-- Where two steps raise a fault, the first one does, or the second one from the session after
it. -/
theorem Gen.of_run_bind_error {step : Gen α} {next : α → Gen β} {s s' : Session} {e : Error}
    (h : (step >>= next).run.run s = (.error e, s')) :
    step.run.run s = (.error e, s') ∨
      ∃ a between, step.run.run s = (.ok a, between) ∧ (next a).run.run between =
        (.error e, s') := by
  rw [Gen.run_bind] at h
  rcases hstep : step.run.run s with ⟨e' | a, between⟩
  · rw [hstep] at h
    cases h
    exact .inl rfl
  · rw [hstep] at h
    exact .inr ⟨a, between, rfl, h⟩

namespace Raises

theorem of_bind {step : Gen α} {next : α → Gen β} {e : Error} (h : Raises (step >>= next) e) :
    Raises step e ∨ ∃ a, Returns step a ∧ Raises (next a) e := by
  obtain ⟨s, s', h⟩ := h
  rcases Gen.of_run_bind_error h with hstep | ⟨a, between, hstep, hnext⟩
  · exact .inl ⟨s, s', hstep⟩
  · exact .inr ⟨a, ⟨s, between, hstep⟩, between, s', hnext⟩

theorem not_pure {a : α} {e : Error} : ¬Raises (pure a) e := by
  rintro ⟨s, s', h⟩
  cases h

theorem of_lift {result : Except Error α} {e : Error} (h : Raises (lift result) e) :
    result = .error e := by
  obtain ⟨s, s', h⟩ := h
  cases result with
  | error e' => cases h; rfl
  | ok a => cases h

/-- A fault that is raised while a step is made for each item is raised by the step for one of
them. -/
theorem of_mapM {step : α → Gen β} {items : List α} {e : Error} (h : Raises (items.mapM step) e) :
    ∃ item ∈ items, Raises (step item) e := by
  induction items with
  | nil =>
    rw [List.mapM_nil] at h
    exact absurd h not_pure
  | cons item items ih =>
    rw [List.mapM_cons] at h
    rcases of_bind h with h | ⟨_, -, h⟩
    · exact ⟨item, List.mem_cons_self, h⟩
    · rcases of_bind h with h | ⟨_, -, h⟩
      · obtain ⟨other, hother, h⟩ := ih h
        exact ⟨other, List.mem_cons_of_mem _ hother, h⟩
      · exact absurd h not_pure

end Raises

/-! ## Files -/

theorem text_eq_ok {v : Json} {text : String} (h : v.text = .ok text) : v = .str text := by
  cases v <;> cases h
  rfl

/-- The code of a file is laid out from fragments, with an indentation; the file stands at the
output path of its module. -/
def LaidOut (config : Config) (indentUnit path : String) (fragments : List String)
    (file : SourceFile) : Prop :=
  ∃ laid code, Layout.layout indentUnit.toList (String.join fragments).toList = .ok laid ∧
    withLineEnding config laid.text = .ok code ∧ file = ⟨outputPath path, String.ofList code⟩

/-- The steps of generating a file.  The spellings of earlier files are forgotten first; names are
remembered while its code is written, and at no other time. -/
theorem SourceFile.steps_of_generate [Limits] {config : Config} {workingDirectory : List String}
    {records : Schema.RecordMap} {module : Schema.Module} {file : SourceFile} {s s' : Session}
    (h : (SourceFile.generate config workingDirectory records module).run.run s = (.ok file, s')) :
    ∃ indentUnit path fragments between after, config.indentUnit = .ok indentUnit ∧
      module.path = .str path ∧ between.spellings = [] ∧ between.names = s.names ∧
      (moduleCode (Speller.remembering ⟨records, .str path⟩) config workingDirectory path
        module).run.run between = (.ok fragments, after) ∧
      LaidOut config indentUnit path fragments file ∧ s'.names = after.names := by
  obtain ⟨_, s₁, hlog, h⟩ := Gen.of_run_bind h
  obtain ⟨unit, s₂, hunit, h⟩ := Gen.of_run_bind h
  obtain ⟨_, s₃, hforget, h⟩ := Gen.of_run_bind h
  obtain ⟨path, s₄, hpath, h⟩ := Gen.of_run_bind h
  obtain ⟨fragments, s₅, hfragments, h⟩ := Gen.of_run_bind h
  obtain ⟨laid, s₆, hlaid, h⟩ := Gen.of_run_bind h
  -- A note about contexts that are still open adds an entry to the log.
  have hcode : ∃ s₇, (lift (ofValue (withLineEnding config laid.text)) >>= fun code =>
      pure ⟨outputPath path, String.ofList code⟩ : Gen SourceFile).run.run s₇ = (.ok file, s') ∧
      s₇.names = s₆.names := by
    cases hnote : laid.note? with
    | none =>
      rw [hnote] at h
      exact ⟨s₆, h, rfl⟩
    | some note =>
      rw [hnote] at h
      obtain ⟨_, s₇, hlog, h⟩ := Gen.of_run_bind h
      cases hlog
      exact ⟨_, h, rfl⟩
  obtain ⟨s₇, hcode, hnames⟩ := hcode
  obtain ⟨code, s₈, hcode, hfile⟩ := Gen.of_run_bind hcode
  obtain ⟨hunit', rfl⟩ := Gen.of_run_lift hunit
  obtain ⟨hforgotten, hkept⟩ : s₃.spellings = [] ∧ s₃.names = s.names := by
    cases hlog
    cases hforget
    exact ⟨rfl, rfl⟩
  obtain ⟨hpath', rfl⟩ := Gen.of_run_lift hpath
  obtain ⟨hlaid', rfl⟩ := Gen.of_run_lift hlaid
  obtain ⟨hcode', rfl⟩ := Gen.of_run_lift hcode
  obtain ⟨hfile', rfl⟩ : file = ⟨outputPath path, String.ofList code⟩ ∧ s₇ = s' := by
    cases hfile
    exact ⟨rfl, rfl⟩
  refine ⟨unit, path, fragments, s₃, s₅, mapError_eq_ok_iff.1 hunit',
    text_eq_ok (mapError_eq_ok_iff.1 hpath'), hforgotten, hkept, hfragments,
    ⟨laid, code, ?_, mapError_eq_ok_iff.1 hcode', hfile'⟩, hnames⟩
  cases hlayout : Layout.layout unit.toList (String.join fragments).toList with
  | error e =>
    rw [hlayout] at hlaid'
    cases hlaid'
  | ok laid' =>
    rw [hlayout] at hlaid'
    cases hlaid'
    rfl

theorem SourceFile.of_generate [Limits] {config : Config} {workingDirectory : List String}
    {records : Schema.RecordMap} {module : Schema.Module} {file : SourceFile} {s s' : Session}
    (h : (SourceFile.generate config workingDirectory records module).run.run s = (.ok file, s')) :
    ∃ indentUnit path fragments between after, config.indentUnit = .ok indentUnit ∧
      module.path = .str path ∧ between.spellings = [] ∧
      (moduleCode (Speller.remembering ⟨records, .str path⟩) config workingDirectory path
        module).run.run between = (.ok fragments, after) ∧
      LaidOut config indentUnit path fragments file := by
  obtain ⟨indentUnit, path, fragments, between, after, hunit, hpath, hforgotten, -,
    hfragments, hlaid, -⟩ :=
    SourceFile.steps_of_generate h
  exact ⟨indentUnit, path, fragments, between, after, hunit, hpath, hforgotten, hfragments, hlaid⟩

end DartRecords.Dart
