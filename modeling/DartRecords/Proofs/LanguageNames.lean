import DartRecords.Proofs.Registrations

/-!
# Names of languages

Languages and aliases are looked up by their names in lowercase.  Lowercase letters stay as they are
(`lower_lower`), since the table of small letters leads to no code point that it maps again, so a
name and its lowercase form are looked up alike.

In every registry that registrations lead to, the primary names are in lowercase and every alias
stands for a language with a backend (`Reachable.settled`).  Hence all lookups agree about every
name (`lookups_agree`): a name is supported exactly if it has a language, and exactly if it has a
backend.
-/

namespace DartRecords.Text

/-! ## Small letters -/

/-- The character is its own lowercase form. -/
def IsSmall (c : Char) : Prop := lowerChar c = [c]

instance (c : Char) : Decidable (IsSmall c) := inferInstanceAs (Decidable (_ = _))

namespace CaseRun

/-- Where a run leads from a code point. -/
def image (run : CaseRun) (n : Nat) : Nat := (n + run.shift).toNat

/-- The run leads before the other one, after it, or in between its code points. -/
def misses (run other : CaseRun) : Bool :=
  Nat.blt (run.image run.hi) other.lo || Nat.blt other.hi (run.image run.lo) ||
    run.stride % other.stride == 0 && run.image run.lo % other.stride != other.lo % other.stride

/-- The one character that becomes several small ones, as a run. -/
def special : CaseRun := ⟨0x130, 0x130, 1, 0⟩

/-- What the run leads to is beyond ASCII and is not mapped again, or the run has one code point and
leads to a small letter. -/
def isFinal (run : CaseRun) : Bool :=
  Nat.ble 0x80 (run.image run.lo) && (special :: lowerRuns).all run.misses ||
    run.lo.beq run.hi && decide (IsSmall (Char.ofNat (run.image run.lo)))

-- Runs are compared in pairs here: there are far fewer of them than of code points.
theorem isFinal_of_mem : ∀ run ∈ lowerRuns, run.isFinal = true := by decide +kernel

variable {run other : CaseRun} {n : Nat}

theorem covers_iff :
    run.covers n = true ↔ run.lo ≤ n ∧ n ≤ run.hi ∧ (n - run.lo) % run.stride = 0 := by
  simp [covers, and_assoc]

/-- A covered code point is a number of strides from the first one. -/
theorem exists_stride (h : run.covers n = true) : ∃ i, n = run.lo + run.stride * i := by
  obtain ⟨hlo, -, hmod⟩ := covers_iff.1 h
  refine ⟨(n - run.lo) / run.stride, ?_⟩
  rw [Nat.mul_div_cancel' (Nat.dvd_of_mod_eq_zero hmod), Nat.add_sub_cancel' hlo]

/-- A run that misses another one leads to no code point of it. -/
theorem covers_image (hbeyond : 0x80 ≤ run.image run.lo) (hmisses : run.misses other = true)
    (h : run.covers n = true) : other.covers (run.image n) = false := by
  obtain ⟨-, hhi, -⟩ := covers_iff.1 h
  obtain ⟨i, rfl⟩ := exists_stride h
  have himage : run.image (run.lo + run.stride * i) = run.image run.lo + run.stride * i := by
    simp only [image] at hbeyond ⊢
    push_cast
    omega
  have hlast : run.image run.lo + run.stride * i ≤ run.image run.hi := by
    rw [← himage]
    simp only [image]
    omega
  refine Bool.eq_false_iff.2 fun hcovers => ?_
  rw [himage] at hcovers
  obtain ⟨hfirst, hsecond, -⟩ := covers_iff.1 hcovers
  simp only [misses, Bool.or_eq_true, Bool.and_eq_true, Nat.blt_eq, beq_iff_eq,
    bne_iff_ne] at hmisses
  rcases hmisses with (hbefore | hafter) | ⟨hstride, hother⟩
  · omega
  · omega
  · -- Both are a number of the other run's strides away, one of them from its first code point.
    obtain ⟨j, hj⟩ := exists_stride hcovers
    obtain ⟨k, hk⟩ := Nat.dvd_of_mod_eq_zero hstride
    have hsame := congrArg (· % other.stride) hj
    exact hother (by simpa [hk, Nat.mul_assoc] using hsame)

end CaseRun

open CaseRun (isFinal_of_mem covers_iff covers_image)

/-- A character that the table does not map is small. -/
theorem isSmall_of_not_covered {c : Char} (hbeyond : 0x80 ≤ c.toNat)
    (h : ∀ run ∈ CaseRun.special :: lowerRuns, run.covers c.toNat = false) : IsSmall c := by
  obtain ⟨hspecial, hruns⟩ := List.forall_mem_cons.1 h
  have hother : c.toNat ≠ 0x130 := by
    intro heq
    rw [heq] at hspecial
    revert hspecial
    decide
  have hlookup : lowerSpecial.lookup c.toNat = none := by
    rw [lowerSpecial, lookup_cons_of_ne hother, List.lookup_nil]
  have hfind : lowerRuns.find? (·.covers c.toNat) = none :=
    List.find?_eq_none.2 fun run hrun => by simp [hruns run hrun]
  rw [IsSmall, lowerChar, if_neg (Nat.not_lt.2 hbeyond), mapCase, hlookup]
  dsimp only
  rw [shiftBy, hfind]

theorem ofNat_cases (n : Nat) : (Char.ofNat n).toNat = n ∨ Char.ofNat n = '\x00' := by
  by_cases h : n.isValidChar
  · refine .inl ?_
    rw [Char.ofNat, dif_pos h]
    rfl
  · refine .inr ?_
    rw [Char.ofNat, dif_neg h]
    rfl

theorem isSmall_image {run : CaseRun} (hrun : run ∈ lowerRuns) {n : Nat} (h : run.covers n = true) :
    IsSmall (Char.ofNat (run.image n)) := by
  obtain ⟨hlo, hhi, -⟩ := covers_iff.1 h
  have hfinal := isFinal_of_mem run hrun
  simp only [CaseRun.isFinal, Bool.or_eq_true, Bool.and_eq_true, List.all_eq_true, Nat.ble_eq,
    Nat.beq_eq, decide_eq_true_eq] at hfinal
  rcases hfinal with ⟨hbeyond, hmisses⟩ | ⟨hsingle, hsmall⟩
  · rcases ofNat_cases (run.image n) with hcode | hnull
    · refine isSmall_of_not_covered ?_ fun other hother => ?_
      · rw [hcode]
        simp only [CaseRun.image] at hbeyond ⊢
        omega
      · rw [hcode]
        exact covers_image hbeyond (hmisses other hother) h
    · rw [hnull]
      decide
  · obtain rfl : n = run.lo := by omega
    exact hsmall

/-- The lowercase form of a character is made of small ones. -/
theorem isSmall_of_mem_lowerChar {c d : Char} (h : d ∈ lowerChar c) : IsSmall d := by
  rw [lowerChar] at h
  split at h
  · next hascii =>
    have htable : ∀ n < 0x80, IsSmall (Char.ofNat n).toLower := by decide +kernel
    have hsmall := htable c.toNat hascii
    rw [Char.ofNat_toNat] at hsmall
    rwa [List.mem_singleton.1 h]
  · next hbeyond =>
    rw [mapCase] at h
    split at h
    · next codes hcodes =>
      obtain ⟨before, after, hentry, -⟩ := List.lookup_eq_some_iff.1 hcodes
      have htable : ∀ entry ∈ lowerSpecial, ∀ code ∈ entry.2, IsSmall (Char.ofNat code) := by
        decide +kernel
      obtain ⟨code, hcode, rfl⟩ := List.mem_map.1 h
      exact htable (c.toNat, codes) (by simp [hentry]) code hcode
    · next hlookup =>
      rw [List.mem_singleton.1 h, shiftBy]
      split
      · next run hrun =>
        have hcovers := List.find?_some hrun
        exact isSmall_image (List.mem_of_find?_eq_some hrun) hcovers
      · next hnone =>
        rw [IsSmall, lowerChar, if_neg hbeyond, mapCase, hlookup]
        dsimp only
        rw [shiftBy, hnone]

theorem isSmall_of_mem_lowerAfter {before cs : List Char} {d : Char}
    (h : d ∈ lowerAfter before cs) :
    IsSmall d := by
  induction cs generalizing before with
  | nil => cases h
  | cons c rest ih =>
    rw [lowerAfter] at h
    rcases List.mem_append.1 h with hhere | hrest
    · split at hhere
      · have hsigmas : IsSmall 'ς' ∧ IsSmall 'σ' := by decide +kernel
        rw [List.mem_singleton.1 hhere]
        split
        · exact hsigmas.1
        · exact hsigmas.2
      · exact isSmall_of_mem_lowerChar hhere
    · exact ih hrest

theorem lowerAfter_of_small {cs : List Char} (h : ∀ c ∈ cs, IsSmall c) (before : List Char) :
    lowerAfter before cs = cs := by
  induction cs generalizing before with
  | nil => rfl
  | cons c rest ih =>
    obtain ⟨hc, hrest⟩ := List.forall_mem_cons.1 h
    have hsigma : c ≠ 'Σ' := by
      rintro rfl
      exact absurd hc (by decide +kernel)
    rw [lowerAfter, ih hrest, if_neg hsigma, hc]
    rfl

/-- A text in lowercase stays as it is. -/
theorem lower_lower (cs : List Char) : lower (lower cs) = lower cs :=
  lowerAfter_of_small (fun _ hc => isSmall_of_mem_lowerAfter hc) []

end DartRecords.Text

namespace DartRecords.Registry

variable {m : Type → Type} {r : Registry m}

theorem nameKey_nameKey (name : String) : nameKey (nameKey name) = nameKey name := by
  rw [nameKey, nameKey, String.toList_ofList, Text.lower_lower]

theorem mem_languages {language : String} :
    language ∈ r.languages ↔ r.isPrimary language = true := by
  rw [languages, sorted, List.mem_mergeSort, List.mem_map, isPrimary, List.lookup_isSome_iff]
  refine exists_congr fun entry => and_congr_right fun _ => ?_
  rw [beq_iff_eq, eq_comm]

/-! ## Settled registries -/

/-- Primary names are in lowercase, and every alias stands for a language that has a backend. -/
structure Settled (r : Registry m) : Prop where
  primary : ∀ {key}, r.isPrimary key = true → nameKey key = key
  target : ∀ entry ∈ r.aliases, r.isPrimary entry.2 = true

theorem mem_setEntry {α : Type} {key : String} {value : α} {entries : List (String × α)}
    {entry : String × α} (h : entry ∈ setEntry key value entries) :
    entry = (key, value) ∨ entry ∈ entries := by
  induction entries with
  | nil => exact .inl (List.mem_singleton.1 h)
  | cons first rest ih =>
    rw [setEntry] at h
    split at h
    · exact (List.mem_cons.1 h).imp_right (List.mem_cons_of_mem first)
    · rcases List.mem_cons.1 h with rfl | h
      · exact .inr List.mem_cons_self
      · exact (ih h).imp_right (List.mem_cons_of_mem first)

theorem kept_settled : Kept (Settled : Registry m → Prop) where
  empty := ⟨nofun, nofun⟩
  setBackend name given hr := by
    refine ⟨fun {key} hkey => ?_, fun entry hentry => ?_⟩
    · rw [isPrimary_setBackend, Bool.or_eq_true, beq_iff_eq] at hkey
      rcases hkey with rfl | hkey
      · exact nameKey_nameKey name
      · exact hr.primary hkey
    · rw [isPrimary_setBackend, hr.target entry hentry, Bool.or_true]
  setAlias name language hr hlanguage := by
    refine ⟨hr.primary, fun entry hentry => ?_⟩
    rcases mem_setEntry hentry with rfl | hentry
    · exact hlanguage
    · exact hr.target entry hentry

theorem Reachable.settled (h : Reachable r) : r.Settled := h.of_kept kept_settled

/-! ## Lookups -/

/-- What the lookups of a registry say about one name. -/
structure LookupsAgree (r : Registry m) (name : String) : Prop where
  resolves : r.isSupported name = true ↔ ∃ language, r.resolve name = .ok language
  finds : r.isSupported name = true ↔ ∃ found, r.find name = .ok found
  /-- The language of a name is registered and is its own, and is also that of the lowercase
  name. -/
  language : ∀ language, r.resolve name = .ok language →
    language ∈ r.languages ∧ r.resolve language = .ok language ∧
      r.resolve (nameKey name) = .ok language ∧ ∃ backend, r.find name = .ok (language, backend)
  /-- A name that is not supported is refused as such by both. -/
  unknown : r.isSupported name = false →
    r.resolve name = .error (.unknownLanguage name r.languages) ∧
      r.find name = .error (.unknownLanguage name r.languages)

theorem resolve_eq_ok_iff {name language : String} : r.resolve name = .ok language ↔
    (r.isPrimary (nameKey name) = true ∧ language = nameKey name) ∨
      (r.isPrimary (nameKey name) = false ∧ r.aliases.lookup (nameKey name) = some language) := by
  rw [resolve]
  cases r.isPrimary (nameKey name) with
  | true => simp [eq_comm]
  | false => cases r.aliases.lookup (nameKey name) <;> simp

theorem resolve_of_not_supported {name : String} (h : r.isSupported name = false) :
    r.resolve name = .error (.unknownLanguage name r.languages) := by
  rw [isSupported, Bool.or_eq_false_iff, Option.isSome_eq_false_iff, Option.isNone_iff_eq_none] at h
  rw [resolve, h.1, h.2]
  rfl

theorem isSupported_iff {name : String} :
    r.isSupported name = true ↔ ∃ language, r.resolve name = .ok language := by
  constructor
  · intro h
    rcases isSupported_cases h with hprimary | ⟨hother, target, htarget⟩
    · exact ⟨_, resolve_of_primary hprimary⟩
    · exact ⟨target, resolve_of_alias hother htarget⟩
  · rintro ⟨language, hlanguage⟩
    by_contra hnot
    rw [resolve_of_not_supported (eq_false_of_ne_true hnot)] at hlanguage
    cases hlanguage

/-- The language of a name has a backend. -/
theorem Settled.isPrimary_of_resolve (hr : r.Settled) {name language : String}
    (h : r.resolve name = .ok language) : r.isPrimary language = true := by
  rcases resolve_eq_ok_iff.1 h with ⟨hprimary, rfl⟩ | ⟨-, htarget⟩
  · exact hprimary
  · obtain ⟨before, after, haliases, -⟩ := List.lookup_eq_some_iff.1 htarget
    exact hr.target (nameKey name, language) (by simp [haliases])

theorem Settled.find_of_resolve (hr : r.Settled) {name language : String}
    (h : r.resolve name = .ok language) : ∃ backend, r.find name = .ok (language, backend) := by
  obtain ⟨backend, hbackend⟩ := Option.isSome_iff_exists.1 (hr.isPrimary_of_resolve h)
  exact ⟨backend, by rw [Registry.find_of_resolve h, hbackend]⟩

theorem find_of_not_supported {name : String} (h : r.isSupported name = false) :
    r.find name = .error (.unknownLanguage name r.languages) := by
  rw [find, resolve_of_not_supported h]
  rfl

/-- A name has the language of its lowercase form. -/
theorem resolve_nameKey {name language : String} (h : r.resolve name = .ok language) :
    r.resolve (nameKey name) = .ok language := by
  rw [resolve_eq_ok_iff] at h ⊢
  rwa [nameKey_nameKey]

theorem Settled.lookupsAgree (hr : r.Settled) (name : String) : r.LookupsAgree name where
  resolves := isSupported_iff
  finds := by
    constructor
    · intro h
      obtain ⟨language, hlanguage⟩ := isSupported_iff.1 h
      obtain ⟨backend, hbackend⟩ := hr.find_of_resolve hlanguage
      exact ⟨_, hbackend⟩
    · rintro ⟨found, hfound⟩
      obtain ⟨language, hlanguage, -⟩ := bind_eq_ok hfound
      exact isSupported_iff.2 ⟨language, hlanguage⟩
  language language h := by
    have hprimary := hr.isPrimary_of_resolve h
    have hkey := hr.primary hprimary
    refine ⟨mem_languages.2 hprimary, ?_, resolve_nameKey h, hr.find_of_resolve h⟩
    exact resolve_eq_ok_iff.2 (.inl ⟨by rwa [hkey], hkey.symm⟩)
  unknown h := ⟨resolve_of_not_supported h, find_of_not_supported h⟩

/-- After any registrations the lookups agree about every name, and every alias stands for a
registered language. -/
theorem lookups_agree (hr : Reachable r) :
    (∀ name, r.LookupsAgree name) ∧ ∀ entry ∈ r.aliases, entry.2 ∈ r.languages :=
  ⟨hr.settled.lookupsAgree, fun entry hentry => mem_languages.2 (hr.settled.target entry hentry)⟩

section

attribute [local instance] Limits.usual

/-- An alias has become the primary name of a language, in a registration that was refused for
another alias. -/
theorem flutter_lookups_agree :
    let r := ((standard []).register (.str "Flutter") (some otherDart) (.arr [.str "dart"])).2
    Reachable r ∧ r.aliases = [("flutter", "dart")] ∧ r.isSupported "FLUTTER" = true ∧
      ∃ language backend, r.resolve "FLUTTER" = .ok language ∧ language ∈ r.languages ∧
        r.resolve language = .ok language ∧ r.find "FLUTTER" = .ok (language, backend) := by
  intro r
  have hreachable : Reachable r := .register (.register .empty _ _ _ _) _ _ _ _
  have hsupported : r.isSupported "FLUTTER" = true := by decide
  have hagree := (lookups_agree hreachable).1 "FLUTTER"
  obtain ⟨language, hlanguage⟩ := hagree.resolves.1 hsupported
  obtain ⟨hmem, hself, -, backend, hfind⟩ := hagree.language language hlanguage
  exact ⟨hreachable, by decide, hsupported, language, backend, hlanguage, hmem, hself, hfind⟩

end

end DartRecords.Registry
