import DartRecords.Proofs.Independence
import DartRecords.Proofs.Subtyping

/-!
# Calls of one speller

A speller is asked for types, serializers, default values and conversions, in any order.  It
remembers the spelling of a type together with those of its parts, which have flavours of their own,
and it keeps what a call has found before it fails.  What it remembers is what it would compute
(`Sound`), and every call leaves it so (`gives_ask`).  So by induction on the calls, each of them is
answered as by a speller that computes all spellings anew (`remembered_spellings_invisible`).
-/

namespace DartRecords.Dart

open Schema (Ty)

/-! ## Calls -/

/-- What a speller may be asked for. -/
inductive Call where
  | dartType (type : Ty) (flavor : Flavor) (allFrozen : Option Bool)
  | serializer (type : Ty)
  | defaultValue (type : Ty)
  | toFrozen (input : String) (type : Ty)

/-- What a call returns. -/
inductive Answer where
  | code (text : String)
  | value (default : DefaultValue)
  deriving DecidableEq

namespace Call

/-- The type that the call is about. -/
def type : Call → Ty
  | dartType type _ _ => type
  | serializer type => type
  | defaultValue type => type
  | toFrozen _ type => type

/-- The key paths in the type are made of texts. -/
def KeyedByTexts (call : Call) : Prop := ∀ part ∈ call.type.keyParts, IsText part

/-- Makes the call. -/
def ask {m : Type → Type} [Monad m] [MonadExceptOf Error m] (sp : Speller m) : Call → m Answer
  | dartType type flavor allFrozen => do
    let text ← sp.dartType type flavor allFrozen
    pure (.code text)
  | serializer type => do
    let text ← sp.serializer type
    pure (.code text)
  | defaultValue type => do
    let value ← sp.defaultValue type
    pure (.value value)
  | toFrozen input type => do
    let text ← sp.toFrozen input type
    pure (.code text)

/-- The results of calls that are made one after the other, each in the session that the last one
has left, whether that one has succeeded or failed. -/
def results (sp : Speller Gen) : List Call → Session → List (Except Error Answer)
  | [], _ => []
  | call :: rest, s => ((call.ask sp).run.run s).1 :: results sp rest ((call.ask sp).run.run s).2

end Call

/-- Names are remembered, but spellings are computed anew each time. -/
def Speller.recomputing (scope : Scope) : Speller Gen :=
  { Speller.remembering scope with
    dartType := fun type flavor allFrozen => lift (spell scope flavor allFrozen type) }

/-! ## Without a memory of spellings -/

/-- Nothing is remembered, and a key path need not serve as the key of a table. -/
def Speller.untabled (scope : Scope) : Speller (Except Error) :=
  { Speller.plain scope with
    dartType := fun type flavor allFrozen => spell scope flavor allFrozen type }

section Untabled

variable {scope : Scope} {type : Ty} (h : ∀ part ∈ type.keyParts, IsText part)

include h

theorem dartType_eq_spell (flavor : Flavor) (allFrozen : Option Bool) :
    dartType scope type flavor allFrozen = spell scope flavor allFrozen type :=
  if_pos (hashable_of_isText h)

theorem serializer_untabled :
    (Speller.untabled scope).serializer type = (Speller.plain scope).serializer type := by
  induction type with
  | primitive p => rfl
  | record key => rfl
  | array item ih => rw [Speller.serializer, Speller.serializer, ih h]
  | optional other ih => rw [Speller.serializer, Speller.serializer, ih h]
  | keyedArray item path keyType ih _ =>
    have hitem : ∀ part ∈ item.keyParts, IsText part := fun part hpart =>
      h part (List.mem_append_left _ (List.mem_append_left _ hpart))
    have htype : (Speller.plain scope).dartType item .frozen none =
        (Speller.untabled scope).dartType item .frozen none := dartType_eq_spell hitem .frozen none
    rw [Speller.serializer, Speller.serializer, ih hitem, htype]
    rfl

omit h in
theorem toFrozen_untabled (input : String) :
    (Speller.untabled scope).toFrozen input type = (Speller.plain scope).toFrozen input type := by
  induction type generalizing input with
  | primitive p => rfl
  | record key => rfl
  | array item ih => rw [Speller.toFrozen, Speller.toFrozen, ih]
  | optional other ih => rw [Speller.toFrozen, Speller.toFrozen, ih]
  | keyedArray item path keyType ih _ =>
    rw [Speller.toFrozen, Speller.toFrozen, ih]
    rfl

end Untabled

theorem ask_untabled {scope : Scope} {call : Call} (h : call.KeyedByTexts) :
    call.ask (Speller.untabled scope) = call.ask (Speller.plain scope) := by
  cases call with
  | dartType type flavor allFrozen =>
    have htype : (Speller.plain scope).dartType type flavor allFrozen =
        (Speller.untabled scope).dartType type flavor allFrozen :=
          dartType_eq_spell h flavor allFrozen
    rw [Call.ask, Call.ask, htype]
  | serializer type =>
    rw [Call.ask, Call.ask, @serializer_untabled scope type h]
  | defaultValue type =>
    cases type with
    | record key => rfl
    | primitive p => rfl
    | array item => rfl
    | keyedArray item path keyType => rfl
    | optional other => rfl
  | toFrozen input type => rw [Call.ask, Call.ask, toFrozen_untabled]

/-! ## Every call keeps the memory sound -/

theorem Spells.ask {m n : Type → Type} [Monad m] [LawfulMonad m] [MonadExceptOf Error m] [Monad n]
    [LawfulMonad n] [MonadExceptOf Error n] {sim : Simulation m n} {q : Questions} {sp : Speller m}
    {sp' : Speller n} {scope : Scope} (h : Spells sim q sp sp' scope) {call : Call}
    (hcall : q.AllowsType scope call.type) : sim.Rel (call.ask sp) (call.ask sp') := by
  cases call with
  | dartType type flavor allFrozen =>
    exact sim.bind (h.dartType allFrozen (hcall.spelling flavor)) fun _ _ => sim.pure _
  | serializer type => exact sim.bind (h.serializer hcall) fun _ _ => sim.pure _
  | defaultValue type => exact sim.bind (h.defaultValue hcall) fun _ _ => sim.pure _
  | toFrozen input type => exact sim.bind (h.toFrozen hcall input) fun _ _ => sim.pure _

theorem spells_recomputing (scope : Scope) :
    Spells (Simulation.keeping NamesSound) Questions.texts (Speller.recomputing scope)
      (Speller.untabled scope) scope where
  scope_eq := rfl
  fieldName hname := allowsNames_namesSound.fieldName hname
  variantName hname := allowsNames_namesSound.variantName hname
  constantName hname := allowsNames_namesSound.constantName hname
  record _ := keeping_lift _ _
  className _ := Gives.lift (fun _ => id) _
  dartType _ _ := Gives.lift (fun _ => id) _

section Calls

variable {scope : Scope} {call : Call} (h : call.KeyedByTexts)

include h

theorem Call.KeyedByTexts.allows : Questions.texts.AllowsType scope call.type :=
  ⟨h, fun key _ => Questions.texts_allowsKey scope key⟩

/-- A speller with a sound memory answers a call as if it had none, and its memory stays sound. -/
theorem gives_ask :
    Gives (Sound scope) (Sound scope) (call.ask (Speller.remembering scope))
      (call.ask (Speller.plain scope)) :=
  (spells_remembering scope).ask h.allows

theorem gives_ask_recomputing :
    Gives NamesSound NamesSound (call.ask (Speller.recomputing scope))
      (call.ask (Speller.plain scope)) := by
  rw [← ask_untabled h]
  exact (spells_recomputing scope).ask h.allows

end Calls

theorem results_eq {scope : Scope} {calls : List Call} (hcalls : ∀ call ∈ calls, call.KeyedByTexts)
    {s : Session} (hs : Sound scope s) :
    Call.results (Speller.remembering scope) calls s =
      calls.map fun call => call.ask (Speller.plain scope) := by
  induction calls generalizing s with
  | nil => rfl
  | cons call rest ih =>
    obtain ⟨hcall, hrest⟩ := List.forall_mem_cons.1 hcalls
    obtain ⟨s', hs', hrun⟩ := gives_ask hcall s hs
    rw [Call.results, hrun, ih hrest hs', List.map_cons]

/-- However many calls a speller has answered or failed to answer, it answers each of them as a new
one does that computes all spellings anew; the names that either of them has been asked for before
play no part. -/
theorem remembered_spellings_invisible (scope : Scope) {s t : Session} (hs : Reachable s.names)
    (ht : Reachable t.names) {calls : List Call} (hcalls : ∀ call ∈ calls, call.KeyedByTexts) :
    Call.results (Speller.remembering scope) calls { s with spellings := [] } =
      calls.map fun call => ((call.ask (Speller.recomputing scope)).run.run t).1 := by
  rw [results_eq hcalls ((hs.namesSound rfl).sound scope)]
  refine List.map_congr_left fun call hcall => ?_
  exact (ht.run_eq (gives_ask_recomputing (hcalls call hcall))).symm

/-- Calls about a team.  The second one fails after it has spelt the items, the third one at
once. -/
def teamCalls : List Call :=
  [.dartType (.array teamType) .mutable none,
   .dartType (.keyedArray teamType [.str "name"] (.record "Club")) .frozen none,
   .dartType (.optional (.array teamType)) .kind (some true),
   .serializer teamType,
   .defaultValue (.record roleRecord.key),
   .toFrozen "team" teamType]

theorem teamCalls_keyedByTexts : ∀ call ∈ teamCalls, call.KeyedByTexts := by
  simp [teamCalls, Call.KeyedByTexts, Call.type, teamType, Ty.keyParts, IsText]

theorem teamCalls_answered :
    Reachable ((Session.fieldName (.str "role")).run.run {}).2.names ∧
    (∀ call ∈ teamCalls, call.KeyedByTexts) ∧
    Call.results (Speller.remembering teamScope) teamCalls
        { ((Session.fieldName (.str "role")).run.run {}).2 with spellings := [] } =
      [.ok (.code "_core.List<_core.Iterable<_lib_user.User_orMutable>?>"),
       .error (.schema (.unknownRecord (.str "Club"))),
       .error (.arrayWithoutFlavor .kind),
       .ok (.code
         ("_soia.Serializers.optional(\n_soia.Serializers.keyedIterable(\n"
         ++ "_lib_user.User.serializer,\n(_lib_user.User it) => it.role.kind,\n"
         ++ "internal__getKeySpec: \"role.kind\",\n),\n)")),
       .ok (.value ⟨"_lib_user.User_Role.unknown", true⟩),
       .ok (.code
         ("(team != null) ? _soia.internal__keyedMappedCopy(team, \"role.kind\", "
         ++ "(it) => it.role.kind, (it) => it.toFrozen()) : null"))] := by
  have hrole : Reachable ((Session.fieldName (.str "role")).run.run {}).2.names :=
    Reachable.call (.fieldName "role") Reachable.empty
  refine ⟨hrole, teamCalls_keyedByTexts, ?_⟩
  rw [remembered_spellings_invisible teamScope hrole (show Reachable ({} : Session).names
    from .empty)
    teamCalls_keyedByTexts]
  decide +kernel

end DartRecords.Dart
