import Mathlib.Algebra.FreeMonoid.Basic
import Mathlib.Control.Monad.Writer
import DartRecords.Proofs.Memory

/-!
# The classes that code names

`Speller.noting` is a source of names and spellings that also notes the records whose classes are
named.  It differs from the one that remembers in nothing else: code that is written against it is
the same code, so the notes tell whose classes the code of a file names (`spells_noting`).

The spelling of a type names the classes of `spelledKeys` and no others (`names_noteSpelling`).
-/

namespace DartRecords.Dart

open Naming (Cache Request Sanitizer)
open Schema (Record Ty)

/-! ## Steps that note records -/

/-- Steps of generation that note records. -/
abbrev Noting := WriterT (FreeMonoid Record) Gen

section Noting

variable {α β : Type}

theorem Noting.run_bind (step : Noting α) (next : α → Noting β) (s : Session) :
    (step >>= next).run.run.run s =
      match step.run.run.run s with
      | (.ok (a, named), s') =>
        match (next a).run.run.run s' with
        | (.ok (b, others), s'') => (.ok (b, named * others), s'')
        | (.error e, s'') => (.error e, s'')
      | (.error e, s') => (.error e, s') := by
  have hbind : (step >>= next).run = step.run >>= fun (a, named) =>
      (fun (b, others) => (b, named * others)) <$> (next a).run := rfl
  rw [hbind, Gen.run_bind]
  rcases step.run.run.run s with ⟨e | ⟨a, named⟩, s'⟩
  · rfl
  · dsimp only
    rw [← bind_pure_comp, Gen.run_bind]
    rcases (next a).run.run.run s' with ⟨e | ⟨b, others⟩, s''⟩
    · rfl
    · rfl

/-- The step returns the value and notes the records, from some session. -/
def Notes (step : Noting α) (a : α) (named : FreeMonoid Record) : Prop :=
  Returns step.run (a, named)

namespace Notes

theorem of_bind {step : Noting α} {next : α → Noting β} {b : β} {named : FreeMonoid Record}
    (h : Notes (step >>= next) b named) :
    ∃ a first second, Notes step a first ∧ Notes (next a) b second ∧ named = first * second := by
  obtain ⟨s, s', h⟩ := h
  rw [Noting.run_bind] at h
  rcases hstep : step.run.run.run s with ⟨e | ⟨a, first⟩, between⟩
  · rw [hstep] at h
    cases h
  · rw [hstep] at h
    dsimp only at h
    rcases hnext : (next a).run.run.run between with ⟨e | ⟨b', second⟩, after⟩
    · rw [hnext] at h
      cases h
    · rw [hnext] at h
      cases h
      exact ⟨a, first, second, ⟨s, between, hstep⟩, ⟨between, s', hnext⟩, rfl⟩

theorem of_lift {result : Except Error α} {a : α} {named : FreeMonoid Record}
    (h : Notes (lift result) a named) : result = .ok a := by
  obtain ⟨s, s', h⟩ := h
  cases result with
  | error e => cases h
  | ok b => cases h; rfl

theorem of_resolved {type : Option Ty} {t : Ty} {named : FreeMonoid Record}
    (h : Notes (resolved type) t named) : type = some t := by
  obtain ⟨s, s', h⟩ := h
  cases type with
  | none => cases h
  | some t' => cases h; rfl

end Notes

/-- Whenever the step returns, it has noted the record. -/
def MustNote (step : Noting α) (r : Record) : Prop := ∀ a named, Notes step a named → r ∈ named

namespace MustNote

variable {r : Record}

theorem bind {step : Noting α} (h : MustNote step r) (next : α → Noting β) :
    MustNote (step >>= next) r := by
  intro b named hnotes
  obtain ⟨a, first, second, hstep, -, rfl⟩ := hnotes.of_bind
  exact FreeMonoid.mem_mul.2 (.inl (h a first hstep))

theorem after {step : Noting α} {next : α → Noting β}
    (h : ∀ a named, Notes step a named → MustNote (next a) r) : MustNote (step >>= next) r := by
  intro b named hnotes
  obtain ⟨a, first, second, hstep, hnext, rfl⟩ := hnotes.of_bind
  exact FreeMonoid.mem_mul.2 (.inr (h a first hstep b second hnext))

theorem mapM {step : α → Noting β} {items : List α} {item : α} (hitem : item ∈ items)
    (h : MustNote (step item) r) : MustNote (items.mapM step) r := by
  induction items with
  | nil => cases hitem
  | cons first rest ih =>
    rw [List.mapM_cons]
    rcases List.mem_cons.1 hitem with rfl | hitem
    · exact h.bind _
    · exact after fun _ _ _ => (ih hitem).bind _

end MustNote

end Noting

/-! ## Class names -/

/-- Results with the records that are noted on the way. -/
abbrev Noted := WriterT (FreeMonoid Record) (Except Error)

/-- The step has the result, and where there is one, exactly the given records are noted. -/
def Names {α : Type} (step : Noted α) (result : Except Error α) (named : List Record) : Prop :=
  step.run = result.map fun a => (a, FreeMonoid.ofList named)

namespace Names

variable {α β : Type} {named others : List Record}

theorem pure (a : α) : Names (Pure.pure a) (Pure.pure a) [] := rfl

theorem lift (result : Except Error α) : Names (Dart.lift result) (Dart.lift result) [] := by
  cases result with
  | error e => rfl
  | ok a => rfl

theorem bind {step : Noted α} {result : Except Error α} {next : α → Noted β}
    {nextResult : α → Except Error β} (hstep : Names step result named)
    (hnext : ∀ a, result = .ok a → Names (next a) (nextResult a) others) :
    Names (step >>= next) (result >>= nextResult) (named ++ others) := by
  have hbind : (step >>= next).run = step.run >>= fun (a, first) =>
      (next a).run.map fun (b, second) => (b, first * second) := rfl
  rw [Names, hbind, hstep]
  cases result with
  | error e => rfl
  | ok a =>
    change (next a).run.map _ = (nextResult a).map _
    rw [hnext a rfl]
    cases nextResult a with
    | error e => rfl
    | ok b => rfl

theorem lift_bind {result : Except Error α} {next : α → Noted β} {nextResult : α → Except Error β}
    (hnext : ∀ a, result = .ok a → Names (next a) (nextResult a) named) :
    Names (Dart.lift result >>= next) (Dart.lift result >>= nextResult) named := by
  cases result with
  | error e => rfl
  | ok a => exact (pure a).bind fun a' ha' => hnext a' ha'

end Names

/-- The class of a record, which is noted. -/
def noteClass (scope : Scope) (record : Record) : Noted String := do
  tell (FreeMonoid.of record)
  lift (scope.className record)

/-- The Dart type of a type; the records whose classes it names are noted. -/
def noteSpelling (scope : Scope) : Flavor → Option Bool → Ty → Noted String :=
  spellWith scope (noteClass scope) fun _ compute => compute

/-- The records that the spelling of a type in a flavour names. -/
def namedRecords (scope : Scope) (flavor : Flavor) (type : Ty) : List Record :=
  (spelledKeys flavor type).filterMap fun key => (scope.record key).toOption

theorem names_noteClass (scope : Scope) (record : Record) :
    Names (noteClass scope record) (scope.className record) [record] := by
  rw [noteClass]
  cases scope.className record with
  | error e => rfl
  | ok name => rfl

/-- A spelling names the records of its keys, in their order. -/
theorem names_noteSpelling (scope : Scope) (flavor : Flavor) (allFrozen : Option Bool) (type : Ty) :
    Names (noteSpelling scope flavor allFrozen type) (spell scope flavor allFrozen type)
      (namedRecords scope flavor type) := by
  induction type generalizing flavor allFrozen with
  | primitive p => exact Names.pure _
  | record key =>
    refine Names.lift_bind fun record hrecord => ?_
    have hnamed : namedRecords scope flavor (.record key) = [record] ++ [] := by
      simp [namedRecords, spelledKeys, hrecord, Except.toOption]
    rw [hnamed]
    exact (names_noteClass scope record).bind fun name _ => Names.lift _
  | optional other ih =>
    have h := (ih flavor allFrozen).bind fun spelt _ => Names.pure (spelt ++ "?")
    rwa [List.append_nil] at h
  | array item ih =>
    refine Names.lift_bind fun shape hshape => ?_
    have hnamed : namedRecords scope flavor (.array item) =
        namedRecords scope shape.1 item ++ [] := by
      rw [namedRecords, spelledKeys, hshape, List.append_nil, namedRecords]
    rw [hnamed]
    exact (ih shape.1 allFrozen).bind fun spelt _ => Names.pure _
  | keyedArray item path keyType ihItem ihKey =>
    refine Names.lift_bind fun shape hshape => ?_
    have hnamed : namedRecords scope flavor (.keyedArray item path keyType) =
        namedRecords scope shape.1 item ++
          if flavor = .frozen then namedRecords scope .frozen keyType else [] := by
      rw [namedRecords, spelledKeys, hshape, List.filterMap_append]
      split
      · rfl
      · rfl
    rw [hnamed]
    refine (ihItem shape.1 allFrozen).bind fun spelt _ => ?_
    split
    · have h := (ihKey .frozen none).bind fun key _ => Names.pure
        ("_soia.KeyedIterable<" ++ spelt ++ ", " ++ keyArgument keyType key ++ ">")
      rwa [List.append_nil] at h
    · exact Names.pure _

/-! ## A source that notes class names -/

/-- Goes on with a noted result. -/
def Noted.lift {α : Type} (step : Noted α) : Noting α := WriterT.mk (Dart.lift step.run)

/-- Names that are remembered in the session, and class names that are noted. -/
def Speller.noting (scope : Scope) : Speller Noting where
  fieldName name := liftM (Session.fieldName name)
  variantName name := liftM (Session.variantName name)
  constantName name := liftM (Session.constantName name)
  scope
  className record := (noteClass scope record).lift
  dartType type flavor allFrozen :=
    if type.hashable then (noteSpelling scope flavor allFrozen type).lift
    else throw (.mismatch type.unhashable)

section MustNote

variable {scope : Scope}

theorem Notes.of_noted {α : Type} {step : Noted α} {a : α} {named : FreeMonoid Record}
    (h : Notes step.lift a named) : step.run = .ok (a, named) :=
  Returns.of_lift h

theorem mustNote_className (r : Record) : MustNote ((Speller.noting scope).className r) r := by
  intro name named h
  have hrun := h.of_noted
  rw [names_noteClass] at hrun
  cases hname : scope.className r with
  | error e =>
    rw [hname] at hrun
    cases hrun
  | ok name' =>
    rw [hname] at hrun
    cases hrun
    exact FreeMonoid.mem_of_self

theorem mustNote_dartType {type : Ty} {flavor : Flavor} {r : Record}
    (hr : r ∈ namedRecords scope flavor type) (allFrozen : Option Bool) :
    MustNote ((Speller.noting scope).dartType type flavor allFrozen) r := by
  intro spelt named h
  change Notes (if type.hashable then (noteSpelling scope flavor allFrozen type).lift
    else throw (.mismatch type.unhashable)) spelt named at h
  split at h
  · have hrun := h.of_noted
    rw [names_noteSpelling] at hrun
    cases hspelt : spell scope flavor allFrozen type with
    | error e =>
      rw [hspelt] at hrun
      cases hrun
    | ok spelt' =>
      rw [hspelt] at hrun
      cases hrun
      exact hr
  · obtain ⟨s, s', h⟩ := h
    cases h

end MustNote

/-- The sessions remember the same names, and the spellings of the second one are sound. -/
structure Alike (scope : Scope) (s t : Session) : Prop where
  names : s.names = t.names
  spellings : SpellingsSound scope t

/-- The outcomes are alike, and all records that are noted satisfy a predicate. -/
inductive Matches (scope : Scope) (P : Record → Prop) {α : Type} :
    Except Error (α × FreeMonoid Record) × Session → Except Error α × Session → Prop
  | ok {s t : Session} (h : Alike scope s t) (a : α) {named : FreeMonoid Record}
      (hnamed : ∀ r ∈ named, P r) : Matches scope P (.ok (a, named), s) (.ok a, t)
  | error {s t : Session} (h : Alike scope s t) (e : Error) :
      Matches scope P (.error e, s) (.error e, t)

/-- Steps that note records, related to steps with a memory. -/
def Simulation.noting (scope : Scope) (P : Record → Prop) : Simulation Noting Gen where
  Rel step other := ∀ s t, Alike scope s t → Matches scope P (step.run.run.run s) (other.run.run t)
  MayReturn := Returns
  eq_of_pure := Returns.of_pure
  not_mayReturn_throw := by
    rintro α e a ⟨s, s', h⟩
    cases h
  pure a s t h := .ok h a fun r hr => absurd hr FreeMonoid.notMem_one
  throw _ s t h := .error h _
  bind := by
    intro α β step other next otherNext hstep hnext s t hst
    have hmatch := hstep s t hst
    rw [Noting.run_bind, Gen.run_bind]
    generalize step.run.run.run s = outcome at hmatch ⊢
    generalize hother : other.run.run t = otherOutcome at hmatch ⊢
    cases hmatch with
    | error hst' e => exact .error hst' e
    | ok hst' a hnamed =>
      have hmatch' := hnext a ⟨_, _, hother⟩ _ _ hst'
      dsimp only
      generalize (next a).run.run.run _ = nextOutcome at hmatch' ⊢
      generalize (otherNext a).run.run _ = otherNextOutcome at hmatch' ⊢
      cases hmatch' with
      | error hst'' e => exact .error hst'' e
      | ok hst'' b hothers =>
        exact .ok hst'' b fun r hr => (FreeMonoid.mem_mul.1 hr).elim (hnamed r) (hothers r)

section Spells

variable {scope : Scope} {P : Record → Prop}

/-- A name is found, and remembered, in the same way whether or not records are noted. -/
theorem rel_sanitized (sanitizer : Sanitizer) (request : Request) (cacheOf : NameCaches → Cache)
    (store : NameCaches → Cache → NameCaches) :
    (Simulation.noting scope P).Rel (liftM (Session.sanitized sanitizer request cacheOf store))
      (Session.sanitized sanitizer request cacheOf store) := by
  intro s t hst
  have hlift (step : Gen String) :
      (liftM step : Noting String).run = (fun name => (name, 1)) <$> step := rfl
  rw [hlift, ← bind_pure_comp, Gen.run_bind, run_sanitized, run_sanitized, hst.names]
  generalize sanitizer.sanitize request (cacheOf t.names) = answer
  have hst' : Alike scope { s with names := store t.names answer.2 }
      { t with names := store t.names answer.2 } := ⟨rfl, hst.spellings⟩
  cases ofValue answer.1 with
  | error e => exact .error hst' e
  | ok name => exact .ok hst' name fun r hr => absurd hr FreeMonoid.notMem_one

theorem noting_lift {α : Type} (result : Except Error α) :
    (Simulation.noting scope P).Rel (lift result) (lift result) := by
  cases result with
  | error e => exact fun s t hst => .error hst e
  | ok a => exact (Simulation.noting scope P).pure a

theorem rel_noteClass {record : Record} (h : P record) :
    (Simulation.noting scope P).Rel (noteClass scope record).lift
    (lift (scope.className record)) := by
  intro s t hst
  rw [Noted.lift, WriterT.run_mk, names_noteClass]
  cases scope.className record with
  | error e => exact .error hst e
  | ok name => exact .ok hst name fun r hr => FreeMonoid.mem_of.1 hr ▸ h

theorem mem_namedRecords {flavor : Flavor} {type : Ty} {r : Record} :
    r ∈ namedRecords scope flavor type ↔
      ∃ key ∈ spelledKeys flavor type, scope.record key = .ok r := by
  rw [namedRecords, List.mem_filterMap]
  refine exists_congr fun key => and_congr_right fun _ => ?_
  cases scope.record key with
  | error e => simp [Except.toOption]
  | ok record => simp [Except.toOption]

theorem rel_noteSpelling {flavor : Flavor} {type : Ty} (allFrozen : Option Bool)
    (h : ∀ r ∈ namedRecords scope flavor type, P r) :
    (Simulation.noting scope P).Rel ((Speller.noting scope).dartType type flavor allFrozen)
      ((Speller.remembering scope).dartType type flavor allFrozen) := by
  intro s t hst
  obtain ⟨t', ⟨hnames, hspellings⟩, hrun⟩ :=
    gives_dartType type flavor allFrozen t ⟨rfl, hst.spellings⟩
  have hst' : Alike scope s t' := ⟨hst.names.trans hnames.symm, hspellings⟩
  change Matches scope P _ ((Session.dartType scope type flavor allFrozen).run.run t)
  rw [hrun, dartType]
  change Matches scope P ((if type.hashable then (noteSpelling scope flavor allFrozen type).lift
    else throw (.mismatch type.unhashable) : Noting String).run.run.run s) _
  split
  · rw [Noted.lift, WriterT.run_mk, names_noteSpelling]
    cases spell scope flavor allFrozen type with
    | error e => exact .error hst' e
    | ok spelt => exact .ok hst' spelt h
  · exact .error hst' _

/-- Code is the same whether or not its class names are noted. -/
theorem spells_noting (scope : Scope) (P : Record → Prop) :
    Spells (Simulation.noting scope P) ⟨fun _ => True, P, fun _ => True⟩ (Speller.noting scope)
      (Speller.remembering scope) scope where
  scope_eq := rfl
  fieldName _ := rel_sanitized _ _ _ _
  variantName _ := rel_sanitized _ _ _ _
  constantName _ := rel_sanitized _ _ _ _
  record _ := noting_lift _
  className h := rel_noteClass h
  dartType allFrozen h := rel_noteSpelling allFrozen fun r hr => by
    obtain ⟨key, hkey, hrecord⟩ := mem_namedRecords.1 hr
    exact (h key hkey).found r hrecord

end Spells

end DartRecords.Dart
