import DartRecords.Proofs.ListRelations
import DartRecords.Registry.Create

/-!
# Registrations

A registration is refused or skipped, and then the registry stays as it is, or it takes effect
(`register_cases`): the language gets the backend, and aliases are added one after another until one
of them is refused (`register_eq`).  What these changes keep holds in every registry that
registrations lead to (`Reachable.of_kept`); for one, an alias stands for a language that has a
backend (`Reachable.anchored`).

Two things follow for registrations that replace nothing.

* A known name keeps its language and its backend, unless it is an alias and the registration makes
  it the primary name of a new language (`registration_redirects_iff`).
* A registration that fails for one of its aliases has taken effect all the same: it leaves what a
  registration with the aliases before that one leaves (`failed_registration_keeps_iff`).
-/

namespace DartRecords.Registry

variable {m : Type → Type} {r s : Registry m}

theorem error_of_map_eq_error {α β ε : Type} {result : Except ε α} {f : α → β} {e : ε}
    (h : result.map f = .error e) : result = .error e := by
  cases result with
  | error e' => cases h; rfl
  | ok a => cases h

/-! ## Entries -/

theorem lookup_setEntry {α : Type} (key : String) (value : α) (entries : List (String × α))
    (other : String) :
    (setEntry key value entries).lookup other =
      if other = key then some value else entries.lookup other := by
  induction entries with
  | nil =>
    rw [setEntry]
    split
    · next h => rw [h, List.lookup_cons_self]
    · next h => rw [lookup_cons_of_ne h]
  | cons entry rest ih =>
    obtain ⟨first, old⟩ := entry
    rw [setEntry]
    by_cases hfirst : first = key
    · rw [if_pos hfirst]
      split
      · next h => rw [h, List.lookup_cons_self]
      · next h => rw [lookup_cons_of_ne h, lookup_cons_of_ne (hfirst ▸ h)]
    · rw [if_neg hfirst]
      by_cases hother : other = first
      · rw [if_neg (hother ▸ hfirst), hother, List.lookup_cons_self, List.lookup_cons_self]
      · rw [lookup_cons_of_ne hother, lookup_cons_of_ne hother, ih]

/-- Gives a language its backend. -/
def setBackend (r : Registry m) (key : String) (backend : Backend m) : Registry m :=
  { r with backends := setEntry key backend r.backends }

/-- Makes a name an alias of a language. -/
def setAlias (r : Registry m) (key language : String) : Registry m :=
  { r with aliases := setEntry key language r.aliases }

theorem isPrimary_setBackend (r : Registry m) (key : String) (backend : Backend m)
    (other : String) :
    (r.setBackend key backend).isPrimary other = (other == key || r.isPrimary other) := by
  rw [isPrimary, setBackend, lookup_setEntry]
  split
  · next h => simp [h]
  · next h => simp [h, isPrimary]

/-! ## Adding aliases -/

section Aliases

variable {language name : String} {replace : Bool} {e : Error}

/-- An alias that is accepted is the language itself, or it becomes an alias of it.  Unless names
may be replaced, it is then neither a primary name nor an alias of another language. -/
theorem addAlias_eq_ok (h : r.addAlias language name replace = .ok s) :
    s = r ∨ s = r.setAlias (nameKey name) language ∧ (replace = false →
      r.isPrimary (nameKey name) = false ∧
        ∀ target, r.aliases.lookup (nameKey name) = some target → target = language) := by
  by_cases hself : nameKey name = language
  · simp only [addAlias, hself, if_true, Except.ok.injEq] at h
    exact .inl h.symm
  · right
    cases replace with
    | true =>
      simp only [addAlias, hself, if_false, Bool.not_true, Bool.false_and, if_true] at h
      exact ⟨(Except.ok.inj h).symm, nofun⟩
    | false =>
      cases hprimary : r.isPrimary (nameKey name) with
      | true => simp [addAlias, hself, hprimary] at h
      | false =>
        cases htarget : r.aliases.lookup (nameKey name) with
        | none =>
          simp only [addAlias, hself, hprimary, htarget] at h
          exact ⟨(Except.ok.inj h).symm, fun _ => ⟨rfl, nofun⟩⟩
        | some target =>
          by_cases hother : target = language
          · simp [addAlias, hself, hprimary, htarget, hother] at h
            exact ⟨h.symm, fun _ => ⟨rfl, by simp [hother]⟩⟩
          · simp [addAlias, hself, hprimary, htarget, hother] at h

/-- Where names may be replaced, every alias is accepted. -/
theorem replace_of_addAlias_eq_error (h : r.addAlias language name replace = .error e) :
    replace = false := by
  cases replace with
  | false => rfl
  | true =>
    by_cases hself : nameKey name = language
    · simp [addAlias, hself] at h
    · simp [addAlias, hself] at h

/-- What each accepted alias keeps holds after all of them. -/
theorem addAliases_keeps {P : Registry m → Prop}
    (hstep : ∀ {r s : Registry m} {name : String}, P r → r.addAlias language name replace = .ok s →
      P s)
    (given : List Json) (hr : P r) : P (r.addAliases language replace given).2 := by
  induction given generalizing r with
  | nil => exact hr
  | cons first rest ih =>
    rw [addAliases]
    cases nameText first with
    | error e => exact hr
    | ok name =>
      dsimp only
      cases hadd : r.addAlias language name replace with
      | error e => exact hr
      | ok s => exact ih (hstep hr hadd)

theorem backends_addAliases (r : Registry m) (language : String) (replace : Bool)
    (given : List Json) :
    (r.addAliases language replace given).2.backends = r.backends := by
  refine @addAliases_keeps _ _ _ _ (fun s => s.backends = r.backends) ?_ given rfl
  intro s t name hs hadd
  rcases addAlias_eq_ok hadd with rfl | ⟨rfl, -⟩
  · exact hs
  · exact hs

/-- Aliases are not redirected unless names may be replaced. -/
theorem lookup_addAliases (language : String) (given : List Json) {key target : String}
    (h : r.aliases.lookup key = some target) :
    (r.addAliases language false given).2.aliases.lookup key = some target := by
  refine @addAliases_keeps _ _ _ _ (fun s => s.aliases.lookup key = some target) ?_ given h
  intro s t name hs hadd
  rcases addAlias_eq_ok hadd with rfl | ⟨rfl, hfree⟩
  · exact hs
  · rw [setAlias, lookup_setEntry]
    split
    · next hkey =>
      subst hkey
      rw [(hfree rfl).2 target hs]
    · exact hs

/-- Where an alias is refused, those before it have been added. -/
theorem addAliases_eq_error {names : List String}
    (h : r.addAliases language replace (names.map .str) = (.error e, s)) :
    ∃ kept refused rest, names = kept ++ refused :: rest ∧
      r.addAliases language replace (kept.map .str) = (.ok (), s) ∧
      s.addAlias language refused replace = .error e := by
  induction names generalizing r with
  | nil => cases h
  | cons first others ih =>
    rw [List.map_cons, addAliases, nameText] at h
    dsimp only at h
    cases hadd : r.addAlias language first replace with
    | error e' =>
      rw [hadd] at h
      cases h
      exact ⟨[], first, others, rfl, rfl, hadd⟩
    | ok t =>
      rw [hadd] at h
      obtain ⟨kept, refused, rest, rfl, hkept, hrefused⟩ := ih h
      refine ⟨first :: kept, refused, rest, rfl, ?_, hrefused⟩
      rw [List.map_cons, addAliases, nameText]
      dsimp only
      rw [hadd]
      exact hkept

end Aliases

/-! ## Registrations that take effect -/

/-- The registration gives the language of a name a backend: it has none so far, or the backend may
be replaced. -/
structure TakesEffect (r : Registry m) (language : Json) (backend : Option (Backend m))
    (replace : Bool) (name : String) (given : Backend m) : Prop where
  language : language = .str name
  backend : backend = some given
  free : r.isPrimary (nameKey name) = true → replace = true

section Register

variable {language aliases : Json} {backend : Option (Backend m)} {replace : Bool} {name : String}
  {given : Backend m}

theorem eq_str_of_nameText (h : nameText language = .ok name) : language = .str name := by
  cases language <;> cases h
  rfl

/-- A registration that has a backend to give takes effect unless it is skipped. -/
theorem takesEffect_iff : r.TakesEffect (.str name) (some given) replace name given ↔
    (r.isPrimary (nameKey name) && !replace) = false := by
  refine ⟨fun h => ?_, fun h => ⟨rfl, rfl, fun hprimary => by simpa [hprimary] using h⟩⟩
  cases hprimary : r.isPrimary (nameKey name) with
  | false => rfl
  | true => rw [h.free hprimary, Bool.not_true, Bool.and_false]

/-- A registration takes effect, or it is skipped or refused and the registry stays as it is.  It is
refused for want of a backend or for a language that is no text. -/
theorem register_cases (r : Registry m) (language : Json) (backend : Option (Backend m))
    (aliases : Json) (replace : Bool) :
    (∃ name given, r.TakesEffect language backend replace name given) ∨
      (∃ entry, r.register language backend aliases replace = (.ok (some entry), r)) ∨
      (∃ cause, r.register language backend aliases replace = (.error (.mismatch cause), r)) ∨
      backend = none ∧ r.register language backend aliases replace = (.error .notABackend, r) := by
  cases backend with
  | none => exact .inr (.inr (.inr ⟨rfl, rfl⟩))
  | some given =>
    cases hlanguage : nameText language with
    | error e =>
      have hcause : ∃ cause, e = .mismatch cause := by
        cases language <;> cases hlanguage <;> exact ⟨_, rfl⟩
      obtain ⟨cause, rfl⟩ := hcause
      exact .inr (.inr (.inl ⟨cause, by simp only [register, hlanguage]⟩))
    | ok name =>
      obtain rfl := eq_str_of_nameText hlanguage
      cases hskip : r.isPrimary (nameKey name) && !replace with
      | true => exact .inr (.inl ⟨_, by simp only [register, nameText, hskip, if_true]; rfl⟩)
      | false => exact .inl ⟨name, given, takesEffect_iff.2 hskip⟩

theorem register_eq (h : r.TakesEffect language backend replace name given) {names : List Json}
    (haliases : aliasList aliases = .ok names) :
    r.register language backend aliases replace =
      (((r.setBackend (nameKey name) given).addAliases (nameKey name) replace names).1.map
          fun _ => none,
        ((r.setBackend (nameKey name) given).addAliases (nameKey name) replace names).2) := by
  obtain rfl := h.language
  obtain rfl := h.backend
  have hset : { r with backends := setEntry (nameKey name) given r.backends } =
      r.setBackend (nameKey name) given := rfl
  simp only [register, nameText, takesEffect_iff.1 h, haliases, hset, Bool.false_eq_true, if_false]
  rcases (r.setBackend (nameKey name) given).addAliases (nameKey name) replace names
    with ⟨e | ⟨⟩, s⟩
  · rfl
  · rfl

/-- The registry after a registration that takes effect has the backend, and some of the aliases. -/
theorem exists_register_eq (h : r.TakesEffect language backend replace name given)
    (aliases : Json) :
    ∃ names, (r.register language backend aliases replace).2 =
      ((r.setBackend (nameKey name) given).addAliases (nameKey name) replace names).2 := by
  cases haliases : aliasList aliases with
  | ok names => exact ⟨names, by rw [register_eq h haliases]⟩
  | error e =>
    obtain rfl := h.language
    obtain rfl := h.backend
    refine ⟨[], ?_⟩
    simp only [register, nameText, takesEffect_iff.1 h, haliases, Bool.false_eq_true, if_false]
    rfl

theorem takesEffect_or_keeps (r : Registry m) (language : Json) (backend : Option (Backend m))
    (aliases : Json) (replace : Bool) :
    (∃ name given, r.TakesEffect language backend replace name given) ∨
      (r.register language backend aliases replace).2 = r := by
  rcases register_cases r language backend aliases replace with h | ⟨_, h⟩ | ⟨_, h⟩ | ⟨-, h⟩
  · exact .inl h
  all_goals exact .inr (congrArg Prod.snd h)

end Register

/-! ## Registries that registrations lead to -/

/-- Registrations lead from the empty registry to this one, whether they succeed or fail. -/
inductive Reachable : Registry m → Prop
  | empty : Reachable {}
  | register {r : Registry m} (h : Reachable r) (language : Json) (backend : Option (Backend m))
      (aliases : Json) (replace : Bool) : Reachable (r.register language backend aliases replace).2

/-- The property holds of the empty registry, and storing a backend for a language or an alias of a
language with a backend keeps it. -/
structure Kept (P : Registry m → Prop) : Prop where
  empty : P {}
  setBackend : ∀ {r : Registry m} (name : String) (given : Backend m), P r →
    P (r.setBackend (nameKey name) given)
  setAlias : ∀ {r : Registry m} (name : String) {language : String}, P r →
    r.isPrimary language = true → P (r.setAlias (nameKey name) language)

/-- A registration keeps what its changes keep, whether it succeeds, is skipped or fails. -/
theorem Kept.register {P : Registry m → Prop} (h : Kept P) (hr : P r) (language : Json)
    (backend : Option (Backend m)) (aliases : Json) (replace : Bool) :
    P (r.register language backend aliases replace).2 := by
  rcases takesEffect_or_keeps r language backend aliases replace with ⟨name, given, heffect⟩ | hkept
  · obtain ⟨names, hnames⟩ := exists_register_eq heffect aliases
    have hprimary : (r.setBackend (nameKey name) given).isPrimary (nameKey name) = true := by
      rw [isPrimary_setBackend, beq_self_eq_true, Bool.true_or]
    rw [hnames]
    refine (@addAliases_keeps _ _ _ _ (fun s => P s ∧ s.isPrimary (nameKey name) = true) ?_ names
      ⟨h.setBackend name given hr, hprimary⟩).1
    rintro s t other ⟨hs, hlanguage⟩ hadd
    rcases addAlias_eq_ok hadd with rfl | ⟨rfl, -⟩
    · exact ⟨hs, hlanguage⟩
    · exact ⟨h.setAlias other hs hlanguage, hlanguage⟩
  · rw [hkept]
    exact hr

theorem Reachable.of_kept {P : Registry m → Prop} (hr : Reachable r) (h : Kept P) : P r := by
  induction hr with
  | empty => exact h.empty
  | register _ language backend aliases replace ih =>
    exact h.register ih language backend aliases replace

/-- Every alias stands for a language that has a backend. -/
def Anchored (r : Registry m) : Prop :=
  ∀ key target, r.aliases.lookup key = some target → r.isPrimary target = true

theorem kept_anchored : Kept (Anchored : Registry m → Prop) where
  empty := nofun
  setBackend name given hr key target htarget := by
    rw [isPrimary_setBackend, hr key target htarget, Bool.or_true]
  setAlias name language hr hlanguage key target htarget := by
    rw [setAlias, lookup_setEntry] at htarget
    split at htarget
    · cases htarget
      exact hlanguage
    · exact hr key target htarget

theorem Reachable.anchored (h : Reachable r) : r.Anchored := h.of_kept kept_anchored

/-! ## Known names -/

theorem resolve_of_primary {name : String} (h : r.isPrimary (nameKey name) = true) :
    r.resolve name = .ok (nameKey name) := by
  simp [resolve, h]

theorem resolve_of_alias {name target : String} (hprimary : r.isPrimary (nameKey name) = false)
    (htarget : r.aliases.lookup (nameKey name) = some target) : r.resolve name = .ok target := by
  simp [resolve, hprimary, htarget]

/-- A known name is a primary name or an alias. -/
theorem isSupported_cases {name : String} (h : r.isSupported name = true) :
    r.isPrimary (nameKey name) = true ∨
      r.isPrimary (nameKey name) = false ∧ ∃ target, r.aliases.lookup (nameKey name) =
        some target := by
  cases hprimary : r.isPrimary (nameKey name) with
  | true => exact .inl rfl
  | false =>
    rw [isSupported, hprimary, Bool.false_or] at h
    exact .inr ⟨rfl, Option.isSome_iff_exists.1 h⟩

theorem find_of_resolve {name language : String} (h : r.resolve name = .ok language) :
    r.find name = match r.backends.lookup language with
      | some backend => .ok (language, backend)
      | none => .error (.mismatch (.missing language)) := by
  rw [find, h]
  rfl

/-- A name that two registries take for the same language is found with the same backend in both if
the language has it in both. -/
theorem find_congr {name language : String} (hr : r.resolve name = .ok language)
    (hs : s.resolve name = .ok language)
    (hbackend : s.backends.lookup language = r.backends.lookup language) :
    s.find name = r.find name := by
  rw [find_of_resolve hr, find_of_resolve hs, hbackend]

section TakesEffect

variable {language aliases : Json} {backend : Option (Backend m)} {replace : Bool} {text : String}
  {given : Backend m}

/-- A registration that takes effect gives a backend to its own language only. -/
theorem TakesEffect.lookup_backends (h : r.TakesEffect language backend replace text given)
    (aliases : Json) (key : String) :
    (r.register language backend aliases replace).2.backends.lookup key =
      if key = nameKey text then some given else r.backends.lookup key := by
  obtain ⟨names, hnames⟩ := exists_register_eq h aliases
  rw [hnames, backends_addAliases, setBackend, lookup_setEntry]

theorem TakesEffect.isPrimary_register (h : r.TakesEffect language backend replace text given)
    (aliases : Json) (key : String) :
    (r.register language backend aliases replace).2.isPrimary key =
      (key == nameKey text || r.isPrimary key) := by
  obtain ⟨names, hnames⟩ := exists_register_eq h aliases
  rw [hnames, isPrimary, backends_addAliases]
  exact isPrimary_setBackend r _ given key

theorem TakesEffect.not_primary (h : r.TakesEffect language backend false text given) :
    r.isPrimary (nameKey text) = false :=
  Bool.eq_false_iff.2 fun hprimary => Bool.false_ne_true (h.free hprimary)

/-- A name keeps its language and its backend through a registration of another one. -/
theorem TakesEffect.keeps (hr : r.Anchored) (h : r.TakesEffect language backend false text given)
    {name : String} (hname : r.isSupported name = true) (hother : nameKey name ≠ nameKey text) :
    (r.register language backend aliases false).2.resolve name = r.resolve name ∧
      (r.register language backend aliases false).2.find name = r.find name := by
  have hprimary : (r.register language backend aliases false).2.isPrimary (nameKey name) =
      r.isPrimary (nameKey name) := by
    rw [h.isPrimary_register, beq_eq_false_iff_ne.2 hother, Bool.false_or]
  rcases isSupported_cases hname with hself | ⟨halias, target, htarget⟩
  · have hbefore := resolve_of_primary hself
    have hafter := resolve_of_primary (hprimary.trans hself)
    refine ⟨hafter.trans hbefore.symm, find_congr hbefore hafter ?_⟩
    rw [h.lookup_backends, if_neg hother]
  · have hbefore := resolve_of_alias halias htarget
    have hafter : (r.register language backend aliases false).2.resolve name = .ok target := by
      refine resolve_of_alias (hprimary.trans halias) ?_
      obtain ⟨names, hnames⟩ := exists_register_eq h aliases
      rw [hnames]
      exact lookup_addAliases _ _ htarget
    refine ⟨hafter.trans hbefore.symm, find_congr hbefore hafter ?_⟩
    -- The language of the alias has a backend, so it is not the new one.
    have hne : target ≠ nameKey text := by
      rintro rfl
      have hanchor := hr _ _ htarget
      rw [h.not_primary] at hanchor
      cases hanchor
    rw [h.lookup_backends, if_neg hne]

/-- An alias that becomes the primary name of a language no longer stands for the language it
did. -/
theorem TakesEffect.redirects (hr : r.Anchored)
    (h : r.TakesEffect language backend false text given) {name : String}
    (hname : r.isSupported name = true) (hsame : nameKey name = nameKey text) :
    (r.register language backend aliases false).2.resolve name ≠ r.resolve name := by
  have hfree : r.isPrimary (nameKey name) = false := hsame ▸ h.not_primary
  obtain ⟨-, target, htarget⟩ := (isSupported_cases hname).resolve_left (by simp [hfree])
  have hanchor := hr _ _ htarget
  have hafter : (r.register language backend aliases false).2.isPrimary (nameKey name) = true := by
    rw [h.isPrimary_register, hsame, beq_self_eq_true, Bool.true_or]
  rw [resolve_of_primary hafter, resolve_of_alias hfree htarget]
  intro heq
  rw [← Except.ok.inj heq, hfree] at hanchor
  cases hanchor

end TakesEffect

/-- The registration makes the name, which has no backend of its own, the primary name of a
language. -/
def TakesName (r : Registry m) (language : Json) (backend : Option (Backend m)) (name : String) :
    Prop :=
  ∃ text given, r.TakesEffect language backend false text given ∧ nameKey name = nameKey text

/-- A registration that replaces nothing leaves a known name with its language and its backend,
unless it makes that name, which is then an alias, the primary name of a language. -/
theorem registration_redirects_iff (hr : Reachable r) (language : Json)
    (backend : Option (Backend m)) (aliases : Json) {name : String}
    (hname : r.isSupported name = true) :
    ((r.register language backend aliases false).2.resolve name = r.resolve name ∧
      (r.register language backend aliases false).2.find name = r.find name) ↔
      ¬r.TakesName language backend name := by
  constructor
  · rintro ⟨hresolve, -⟩ ⟨text, given, heffect, hsame⟩
    exact heffect.redirects hr.anchored hname hsame hresolve
  · intro hfree
    rcases takesEffect_or_keeps r language backend aliases false with ⟨text, given, heffect⟩ | hkept
    · exact heffect.keeps hr.anchored hname fun hsame => hfree ⟨text, given, heffect, hsame⟩
    · rw [hkept]
      exact ⟨rfl, rfl⟩

/-- Another generator of Dart code. -/
def otherDart [Limits] : Backend Dart.Gen :=
  { Backend.dart [] with className := "OtherDartGenerator" }

section

attribute [local instance] Limits.usual

/-- An alias keeps its language when another language claims it. -/
theorem flutter_kept : Reachable (standard []) ∧ (standard []).isSupported "Flutter" = true ∧
    ((standard []).register (.str "kotlin") (some otherDart)
      (.arr [.str "flutter"])).2.resolve "Flutter" = (standard []).resolve "Flutter" ∧
    ((standard []).register (.str "kotlin") (some otherDart)
      (.arr [.str "flutter"])).2.find "Flutter" = (standard []).find "Flutter" := by
  have hreachable : Reachable (standard []) := .register .empty _ _ _ _
  refine ⟨hreachable, by decide, (registration_redirects_iff hreachable _ _ _ (by decide)).2 ?_⟩
  rintro ⟨text, given, heffect, hsame⟩
  cases heffect.language
  revert hsame
  decide

/-- A registration that replaces nothing gives an alias of one language to another. -/
theorem flutter_redirected :
    Reachable (standard []) ∧ (standard []).resolve "flutter" = .ok "dart" ∧
    ((standard []).register (.str "flutter") (some otherDart)).2.resolve "flutter" =
      .ok "flutter" :=
  ⟨.register .empty _ _ _ _, rfl, rfl⟩

end

/-! ## Failed registrations -/

/-- The registries have the same languages with the same backends, and the same aliases. -/
structure Agrees (r s : Registry m) : Prop where
  backends : ∀ key, r.backends.lookup key = s.backends.lookup key
  aliases : ∀ key, r.aliases.lookup key = s.aliases.lookup key

theorem Agrees.isPrimary_eq (h : r.Agrees s) (key : String) :
    r.isPrimary key = s.isPrimary key := by
  rw [isPrimary, isPrimary, h.backends]

theorem aliasList_texts (names : List String) :
    aliasList (.arr (names.map .str)) = .ok (names.map .str) := by
  cases names with
  | nil => rfl
  | cons first rest => rfl

/-- A registration that is refused as such had no backend to give, or it has taken effect. -/
theorem takesEffect_of_error {language aliases : Json} {backend : Option (Backend m)}
    {replace : Bool} {e : Error} (h : r.register language backend aliases replace = (.error e, s))
    (he : ∀ cause, e ≠ .mismatch cause) :
    backend = none ∨ ∃ name given, r.TakesEffect language backend replace name given := by
  rcases register_cases r language backend aliases replace with
    heffect | ⟨entry, hskipped⟩ | ⟨cause, hrefused⟩ | ⟨hnone, -⟩
  · exact .inr heffect
  · cases hskipped.symm.trans h
  · cases hrefused.symm.trans h
    exact absurd rfl (he cause)
  · exact .inl hnone

/-- A refused registration leaves the registry as it was exactly if there was no backend to
register.  Otherwise an alias was refused, and the registry is the one that a registration with the
aliases before it leads to. -/
theorem failed_registration_keeps_iff {language : Json} {backend : Option (Backend m)}
    {names : List String} {replace : Bool} {e : Error} {after : Registry m}
    (h : r.register language backend (.arr (names.map .str)) replace = (.error e, after))
    (he : ∀ cause, e ≠ .mismatch cause) :
    (r.Agrees after ↔ backend = none) ∧
      (backend ≠ none → ∃ kept refused rest, names = kept ++ refused :: rest ∧
        r.register language backend (.arr (kept.map .str)) replace = (.ok none, after)) := by
  rcases takesEffect_of_error h he with rfl | ⟨name, given, heffect⟩
  · cases h
    exact ⟨iff_of_true ⟨fun _ => rfl, fun _ => rfl⟩ rfl, fun hnone => absurd rfl hnone⟩
  · have hadded := register_eq heffect (aliasList_texts names)
    rw [h, Prod.mk.injEq] at hadded
    obtain ⟨kept, refused, rest, rfl, hkept, hrefused⟩ := addAliases_eq_error (Prod.ext
      (error_of_map_eq_error hadded.1.symm) hadded.2.symm)
    obtain rfl := replace_of_addAlias_eq_error hrefused
    have hagain := register_eq heffect (aliasList_texts kept)
    rw [hkept] at hagain
    refine ⟨iff_of_false (fun hagrees => ?_) (by simp [heffect.backend]), fun _ =>
      ⟨kept, refused, rest, rfl, hagain⟩⟩
    have hprimary := heffect.isPrimary_register (.arr (kept.map .str)) (nameKey name)
    rw [hagain, ← hagrees.isPrimary_eq, heffect.not_primary, beq_self_eq_true,
      Bool.true_or] at hprimary
    cases hprimary

section

attribute [local instance] Limits.usual

/-- A language that is refused for its second alias is there with the first one. -/
theorem swift_half_registered : ∃ e after,
    (standard []).register (.str "swift") (some otherDart) (.arr (["ios", "flutter"].map .str)) =
      (.error e, after) ∧
    (∀ cause, e ≠ .mismatch cause) ∧ ¬(standard []).Agrees after ∧
    ∃ kept refused rest, ["ios", "flutter"] = kept ++ refused :: rest ∧
      (standard []).register (.str "swift") (some otherDart) (.arr (kept.map .str)) =
        (.ok none, after) := by
  have hrun : (standard []).register (.str "swift") (some otherDart)
      (.arr (["ios", "flutter"].map .str)) = (.error (.aliasTaken "flutter" "dart"), _) := rfl
  have hrefusal : ∀ cause, Error.aliasTaken "flutter" "dart" ≠ .mismatch cause := nofun
  obtain ⟨hagrees, hkept⟩ := failed_registration_keeps_iff hrun hrefusal
  exact ⟨_, _, hrun, hrefusal, fun h => Option.some_ne_none _ (hagrees.1 h),
    hkept (Option.some_ne_none _)⟩

/-- A refused registration has changed the registry. -/
theorem dart2_stays_registered : Reachable (standard []) ∧
    ((standard []).register (.str "dart2") (some otherDart) (.arr [.str "dart"])).1 =
      .error (.aliasIsLanguage "dart") ∧
    ¬(standard []).Agrees
      ((standard []).register (.str "dart2") (some otherDart) (.arr [.str "dart"])).2 := by
  refine ⟨.register .empty _ _ _ _, rfl, fun h => ?_⟩
  have hprimary := h.isPrimary_eq "dart2"
  revert hprimary
  decide

end

end DartRecords.Registry
