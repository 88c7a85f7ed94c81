import DartRecords.Layout.Cleanup

/-!
# What the clean-ups keep

The clean-ups run over the whole text of a file and know nothing about string literals.  This
module says what they do to a part of the text.

* Every clean-up only removes blanks.  `Thinned` is that relation, and each clean-up has a
  `thinned_…` lemma.
* `JoinRun` says what joining empty brackets does, step by step; all that is said about it is proved
  by induction on its steps.
* Joining empty brackets works on the two sides of a neutral character independently
  (`collapse_append_cons`), so what happens inside quotes depends on nothing outside of them.
* The clean-ups of empty lines keep every part without a newline (`keepsLines_cleanLines`).
* `Hollow` says that a bracket pair encloses blanks only.  Joining changes a text exactly when it
  is hollow (`collapse_eq_self_iff`), and nothing hollow is left
  (`not_hasHollowBrackets_cleanUp`).
-/

namespace DartRecords.Layout

open Text (isBlank)

/-! ## The two halves of cleaning up -/

/-- The clean-ups of brackets. -/
def collapse (text : List Char) : List Char :=
  joinEmpty '[' ']' [] (joinEmpty '(' ')' [] (joinEmpty '\x7b' '\x7d' [] text))

/-- The clean-ups of empty lines. -/
def cleanLines (text : List Char) : List Char :=
  dropTrailingBlank (squeezeNewlines 0 (dropBeforeBrace (dropAfterBrace .elsewhere text)))

theorem cleanUp_eq (text : List Char) : cleanUp text = cleanLines (collapse text) := rfl

/-! ## Every clean-up only removes blanks -/

/-- The second text is the first one without some of its blanks. -/
inductive Thinned : List Char → List Char → Prop where
  | nil : Thinned [] []
  | keep (c : Char) {text rest : List Char} : Thinned text rest → Thinned (c :: text) (c :: rest)
  | drop {c : Char} {text rest : List Char} :
      isBlank c = true → Thinned text rest → Thinned (c :: text) rest

namespace Thinned

theorem refl : (text : List Char) → Thinned text text
  | [] => .nil
  | c :: text => .keep c (refl text)

theorem append {text rest text' rest' : List Char} (h : Thinned text rest)
    (h' : Thinned text' rest') : Thinned (text ++ text') (rest ++ rest') := by
  induction h with
  | nil => exact h'
  | keep c _ ih => exact .keep c ih
  | drop hc _ ih => exact .drop hc ih

theorem trans {first second third : List Char} (h : Thinned first second)
    (h' : Thinned second third) : Thinned first third := by
  induction h generalizing third with
  | nil => exact h'
  | drop hc _ ih => exact .drop hc (ih h')
  | keep c _ ih =>
    cases h' with
    | keep _ h' => exact .keep c (ih h')
    | drop hc h' => exact .drop hc (ih h')

theorem mem {text rest : List Char} (h : Thinned text rest) {c : Char} (hc : c ∈ rest) :
    c ∈ text := by
  induction h with
  | nil => exact hc
  | keep d _ ih =>
    rcases List.mem_cons.1 hc with rfl | hc
    · exact List.mem_cons_self
    · exact List.mem_cons_of_mem _ (ih hc)
  | drop _ _ ih => exact List.mem_cons_of_mem _ (ih hc)

/-- Blanks alone can be removed altogether. -/
theorem of_blanks {gap : List Char} (hgap : ∀ c ∈ gap, isBlank c = true) : Thinned gap [] := by
  induction gap with
  | nil => exact .nil
  | cons c gap ih =>
    exact .drop (hgap c (by simp)) (ih fun d hd => hgap d (by simp [hd]))

end Thinned

/-- What has been read last, blanks aside, while brackets are looked for. -/
inductive BracketScan where
  | elsewhere
  | afterOpening
  /-- After an opening bracket and blanks. -/
  | afterGap
  deriving DecidableEq, Repr

namespace BracketScan

/-- The state after a blank. -/
def blank : BracketScan → BracketScan
  | .elsewhere => .elsewhere
  | _ => .afterGap

/-- The state after a character that is not blank. -/
def next (opening c : Char) : BracketScan := if c = opening then .afterOpening else .elsewhere

/-- The opening bracket and the blanks that a state stands for. -/
def Held (opening : Char) : BracketScan → List Char → Prop
  | .elsewhere, held => held = []
  | .afterOpening, held => held = [opening]
  | .afterGap, held =>
    ∃ gap, gap ≠ [] ∧ (∀ c ∈ gap, isBlank c = true) ∧ held = opening :: gap

variable {opening c : Char} {scan : BracketScan} {held : List Char}

theorem Held.nil (h : Held opening scan []) : scan = .elsewhere := by
  cases scan <;> simp_all [Held]

/-- A blank after an opening bracket is held too. -/
theorem Held.append_blank (h : Held opening scan held) (hne : held ≠ []) (hc : isBlank c = true) :
    Held opening .afterGap (held ++ [c]) ∧ scan.blank = .afterGap := by
  cases scan with
  | elsewhere => exact absurd h hne
  | afterOpening => exact ⟨⟨[c], by simp, by simpa using hc, by simp_all [Held]⟩, rfl⟩
  | afterGap =>
    obtain ⟨gap, -, hgap, rfl⟩ := h
    refine ⟨⟨gap ++ [c], by simp, ?_, rfl⟩, rfl⟩
    intro d hd
    rcases List.mem_append.1 hd with hd | hd
    · exact hgap d hd
    · rwa [List.mem_singleton.1 hd]

/-- What is held is an opening bracket and blanks. -/
theorem Held.exists_gap (h : Held opening scan held) (hne : held ≠ []) :
    ∃ gap, (∀ c ∈ gap, isBlank c = true) ∧ held = opening :: gap ∧
      (scan = .afterGap ↔ gap ≠ []) := by
  cases scan with
  | elsewhere => exact absurd h hne
  | afterOpening => exact ⟨[], by simp, h, by simp⟩
  | afterGap =>
    obtain ⟨gap, hgap, hblank, rfl⟩ := h
    exact ⟨gap, hblank, rfl, by simp [hgap]⟩

theorem Held.afterGap_iff {first : Char} {earlier : List Char}
    (h : Held opening scan (first :: earlier).reverse) : scan = .afterGap ↔ earlier ≠ [] := by
  obtain ⟨gap, -, hgap, hscan⟩ := h.exists_gap (by simp)
  have hlength : earlier.length = gap.length := by simpa using congrArg List.length hgap
  rw [hscan, ← List.length_pos_iff, ← hlength, List.length_pos_iff]

end BracketScan

open BracketScan (Held)

/-! ## Joining empty brackets, step by step -/

/-- What joining empty brackets does: from what is held back in a state, and a text, to the text
that is written. -/
inductive JoinRun (opening closing : Char) :
    BracketScan → List Char → List Char → List Char → Prop where
  | stop {scan : BracketScan} {held : List Char} (hheld : Held opening scan held) :
      JoinRun opening closing scan held [] held
  /-- A blank after an opening bracket is held back too. -/
  | hold {scan : BracketScan} {held rest written : List Char} {c : Char}
      (hheld : Held opening scan held) (hne : held ≠ []) (hc : isBlank c = true)
      (hrest : JoinRun opening closing .afterGap (held ++ [c]) rest written) :
      JoinRun opening closing scan held (c :: rest) written
  /-- A closing bracket drops the blanks that are held back. -/
  | close {gap rest written : List Char} (hne : gap ≠ []) (hgap : ∀ c ∈ gap, isBlank c = true)
      (hclosing : isBlank closing = false)
      (hrest : JoinRun opening closing .elsewhere [] rest written) :
      JoinRun opening closing .afterGap (opening :: gap) (closing :: rest)
        (opening :: closing :: written)
  | reopen {scan : BracketScan} {held rest written : List Char} (hheld : Held opening scan held)
      (hrest : JoinRun opening closing .afterOpening [opening] rest written) :
      JoinRun opening closing scan held (opening :: rest) (held ++ written)
  | pass {scan : BracketScan} {held rest written : List Char} {c : Char}
      (hheld : Held opening scan held) (hopen : c ≠ opening) (hblank : isBlank c = true → held = [])
      (hclose : c = closing → scan ≠ .afterGap)
      (hrest : JoinRun opening closing .elsewhere [] rest written) :
      JoinRun opening closing scan held (c :: rest) (held ++ c :: written)

/-- What is held back is an opening bracket and the blanks after it, the last one first. -/
theorem joinRun_held {opening closing : Char} {scan : BracketScan} {pending : List Char}
    (hpending : Held opening scan pending.reverse) (text : List Char) :
    JoinRun opening closing scan pending.reverse text (joinEmpty opening closing pending text) := by
  induction text generalizing scan pending with
  | nil =>
    rw [joinEmpty]
    exact .stop hpending
  | cons c rest ih =>
    have hfresh : JoinRun opening closing .elsewhere [] rest (joinEmpty opening closing [] rest) :=
      @ih .elsewhere [] rfl
    have hopened : JoinRun opening closing .afterOpening [opening] rest
        (joinEmpty opening closing [opening] rest) := @ih .afterOpening [opening] rfl
    cases pending with
    | nil =>
      rw [joinEmpty]
      split
      · next hopen =>
        rw [hopen]
        exact .reopen hpending hopened
      · next hopen =>
        refine .pass hpending hopen (fun _ => rfl) (fun _ => ?_) hfresh
        rw [hpending.nil]
        simp
    | cons first earlier =>
      rw [joinEmpty]
      split
      · next hblank =>
        have hheld := (hpending.append_blank (by simp) hblank).1
        rw [← List.reverse_cons] at hheld
        have hrest := ih hheld
        rw [List.reverse_cons] at hrest
        exact .hold hpending (by simp) hblank hrest
      · next hblank =>
        split
        · next hclose =>
          simp only [Bool.and_eq_true, decide_eq_true_eq, Bool.not_eq_true',
            List.isEmpty_eq_false_iff] at hclose
          obtain ⟨rfl, hearlier⟩ := hclose
          obtain rfl := hpending.afterGap_iff.2 hearlier
          obtain ⟨gap, hne, hgap, hshape⟩ := hpending
          rw [hshape]
          exact .close hne hgap (Bool.eq_false_iff.2 hblank) hfresh
        · next hclose =>
          split
          · next hopen =>
            rw [hopen]
            exact .reopen hpending hopened
          · next hopen =>
            refine .pass hpending hopen (fun hc => absurd hc hblank)
              (fun hc hscan => hclose ?_) hfresh
            simpa [hc] using hpending.afterGap_iff.1 hscan

theorem joinRun_joinEmpty (opening closing : Char) (text : List Char) :
    JoinRun opening closing .elsewhere [] text (joinEmpty opening closing [] text) :=
  @joinRun_held opening closing .elsewhere [] rfl text

/-- Joining empty brackets only removes blanks. -/
theorem JoinRun.thinned {opening closing : Char} {scan : BracketScan}
    {held text written : List Char} (h : JoinRun opening closing scan held text written) :
    Thinned (held ++ text) written := by
  induction h with
  | stop _ =>
    rw [List.append_nil]
    exact Thinned.refl _
  | hold _ _ _ _ ih => simpa using ih
  | close _ hgap _ _ ih => exact .keep _ ((Thinned.of_blanks hgap).append (.keep _ ih))
  | reopen _ _ ih => exact (Thinned.refl _).append ih
  | pass _ _ _ _ _ ih => exact (Thinned.refl _).append (.keep _ ih)

theorem thinned_joinEmpty (opening closing : Char) (text : List Char) :
    Thinned text (joinEmpty opening closing [] text) :=
  (joinRun_joinEmpty opening closing text).thinned

theorem isBlank_newline : isBlank '\n' = true := by decide

theorem thinned_dropAfterBrace (scan : BraceScan) (text : List Char) :
    Thinned text (dropAfterBrace scan text) := by
  fun_induction dropAfterBrace scan text with
  | case1 => exact .nil
  | case2 _ _ ih => exact .keep _ ih
  | case3 _ _ ih => exact .keep _ ih
  | case4 _ _ ih => exact .keep _ ih
  | case5 _ _ ih => exact .drop isBlank_newline ih
  | case6 _ _ _ _ _ _ ih => exact .keep _ ih
  | case7 _ _ _ _ _ _ ih => exact .keep _ ih

theorem thinned_dropBeforeBrace (text : List Char) : Thinned text (dropBeforeBrace text) := by
  fun_induction dropBeforeBrace text with
  | case1 => exact .nil
  | case2 c rest h ih =>
    simp only [Bool.and_eq_true, decide_eq_true_eq] at h
    exact .drop (h.1 ▸ isBlank_newline) ih
  | case3 c rest _ ih => exact .keep c ih

theorem thinned_squeezeNewlines (seen : Nat) (text : List Char) :
    Thinned text (squeezeNewlines seen text) := by
  fun_induction squeezeNewlines seen text with
  | case1 => exact .nil
  | case2 _ _ _ ih => exact .drop isBlank_newline ih
  | case3 _ _ _ ih => exact .keep _ ih
  | case4 _ _ _ _ ih => exact .keep _ ih

theorem thinned_dropTrailingBlank (text : List Char) : Thinned text (dropTrailingBlank text) := by
  fun_induction dropTrailingBlank text with
  | case1 => exact .nil
  | case2 => exact .drop isBlank_newline (Thinned.refl _)
  | case3 c rest _ ih => exact .keep c ih

theorem thinned_cleanLines (text : List Char) : Thinned text (cleanLines text) :=
  (thinned_dropAfterBrace _ _).trans <| (thinned_dropBeforeBrace _).trans <|
    (thinned_squeezeNewlines _ _).trans (thinned_dropTrailingBlank _)

/-! ## The two sides of a neutral character -/

/-- A character that is neither blank nor one of two brackets parts a text: what it holds back is
written out before it, and nothing is held back after it. -/
theorem joinEmpty_append_cons {opening closing x : Char} (hblank : isBlank x = false)
    (hopen : x ≠ opening) (hclose : x ≠ closing) (pending before after : List Char) :
    joinEmpty opening closing pending (before ++ x :: after) =
      joinEmpty opening closing pending before ++ x :: joinEmpty opening closing [] after := by
  induction before generalizing pending with
  | nil =>
    cases pending with
    | nil => simp [joinEmpty, hopen]
    | cons first earlier => simp [joinEmpty, hblank, hopen, hclose]
  | cons c before ih =>
    cases pending with
    | nil =>
      rw [List.cons_append, joinEmpty, joinEmpty, ih, ih]
      split <;> rfl
    | cons first earlier =>
      rw [List.cons_append, joinEmpty, joinEmpty, ih, ih, ih]
      split
      · rfl
      · split
        · rfl
        · split <;> simp

/-- The character is neither blank nor a bracket that the clean-ups look for. -/
def IsNeutral (x : Char) : Prop :=
  isBlank x = false ∧ x ∉ ['\x7b', '\x7d', '(', ')', '[', ']']

instance (x : Char) : Decidable (IsNeutral x) := inferInstanceAs (Decidable (_ ∧ _))

/-- The two sides of a neutral character are collapsed independently. -/
theorem collapse_append_cons {x : Char} (hx : IsNeutral x) (before after : List Char) :
    collapse (before ++ x :: after) = collapse before ++ x :: collapse after := by
  obtain ⟨hblank, hx⟩ := hx
  simp only [List.mem_cons, List.not_mem_nil, or_false, not_or] at hx
  obtain ⟨hcurly, hcurly', hround, hround', hsquare, hsquare'⟩ := hx
  rw [collapse, joinEmpty_append_cons hblank hcurly hcurly',
    joinEmpty_append_cons hblank hround hround', joinEmpty_append_cons hblank hsquare hsquare']
  rfl

/-- Two neutral characters shield what stands between them. -/
theorem part_collapse {first last : Char} (hfirst : IsNeutral first) (hlast : IsNeutral last)
    {middle text : List Char} (h : first :: middle ++ [last] <:+: text) :
    first :: collapse middle ++ [last] <:+: collapse text := by
  obtain ⟨before, after, rfl⟩ := h
  have hshape : before ++ (first :: middle ++ [last]) ++ after =
      before ++ first :: (middle ++ last :: after) := by simp
  rw [hshape, collapse_append_cons hfirst, collapse_append_cons hlast]
  exact ⟨collapse before, collapse after, by simp⟩

/-! ## Parts without a newline -/

theorem dropAfterBrace_append (scan : BraceScan) (before after : List Char) :
    ∃ kept scan', dropAfterBrace scan (before ++ after) = kept ++ dropAfterBrace scan' after ∧
      ('\n' ∉ before → kept = before) := by
  induction before generalizing scan with
  | nil => exact ⟨[], scan, rfl, fun _ => rfl⟩
  | cons c before ih =>
    -- Only a newline can be left out, and the scan goes on in some state.
    have hstep : ∃ head scan', (c ≠ '\n' → head = [c]) ∧
        dropAfterBrace scan (c :: (before ++ after)) =
          head ++ dropAfterBrace scan' (before ++ after) := by
      rw [dropAfterBrace.eq_def]
      dsimp only
      split
      · exact ⟨[c], .afterBrace, fun _ => rfl, rfl⟩
      · split
        · next hc =>
          cases scan
          · exact ⟨[c], .elsewhere, fun _ => rfl, rfl⟩
          · exact ⟨[c], .afterBraceLine, fun _ => rfl, rfl⟩
          · exact ⟨[], .elsewhere, fun h => absurd hc h, rfl⟩
        · split
          · exact ⟨[c], .afterBraceLine, fun _ => rfl, rfl⟩
          · exact ⟨[c], .elsewhere, fun _ => rfl, rfl⟩
    obtain ⟨head, scan', hhead, heq⟩ := hstep
    obtain ⟨kept, scan'', hkept, hsame⟩ := ih scan'
    refine ⟨head ++ kept, scan'', by rw [List.cons_append, heq, hkept, List.append_assoc], ?_⟩
    intro h
    simp only [List.mem_cons, not_or] at h
    rw [hhead (Ne.symm h.1), hsame h.2, List.singleton_append]

theorem dropBeforeBrace_append (before after : List Char) :
    ∃ kept, dropBeforeBrace (before ++ after) = kept ++ dropBeforeBrace after ∧
      ('\n' ∉ before → kept = before) := by
  induction before with
  | nil => exact ⟨[], rfl, fun _ => rfl⟩
  | cons c before ih =>
    obtain ⟨kept, hkept, hsame⟩ := ih
    rw [List.cons_append, dropBeforeBrace]
    split
    · next hc =>
      simp only [Bool.and_eq_true, decide_eq_true_eq] at hc
      exact ⟨kept, hkept, fun h => absurd hc.1.symm (by simp_all)⟩
    · refine ⟨c :: kept, by rw [hkept, List.cons_append], fun h => ?_⟩
      rw [hsame fun hmem => h (List.mem_cons_of_mem c hmem)]

theorem squeezeNewlines_append (seen : Nat) (before after : List Char) :
    ∃ kept seen', squeezeNewlines seen (before ++ after) = kept ++ squeezeNewlines seen' after ∧
      ('\n' ∉ before → kept = before) := by
  induction before generalizing seen with
  | nil => exact ⟨[], seen, rfl, fun _ => rfl⟩
  | cons c before ih =>
    rw [List.cons_append, squeezeNewlines]
    split
    · next hc =>
      have habsurd : '\n' ∉ c :: before → False := fun h => h (by simp [hc])
      split
      · obtain ⟨kept, seen', hkept, -⟩ := ih seen
        exact ⟨kept, seen', hkept, fun h => (habsurd h).elim⟩
      · obtain ⟨kept, seen', hkept, -⟩ := ih (seen + 1)
        exact ⟨c :: kept, seen', by rw [hkept, List.cons_append], fun h => (habsurd h).elim⟩
    · obtain ⟨kept, seen', hkept, hsame⟩ := ih 0
      refine ⟨c :: kept, seen', by rw [hkept, List.cons_append], fun h => ?_⟩
      rw [hsame fun hmem => h (List.mem_cons_of_mem c hmem)]

theorem dropTrailingBlank_append {before after : List Char}
    (h : '\n' ∉ before ∨ ∃ c ∈ after, c ≠ '\n') :
    dropTrailingBlank (before ++ after) = before ++ dropTrailingBlank after := by
  induction before with
  | nil => rfl
  | cons c before ih =>
    have hrest : '\n' ∉ before ∨ ∃ c ∈ after, c ≠ '\n' :=
      h.imp_left fun hmem hrest => hmem (List.mem_cons_of_mem c hrest)
    rw [List.cons_append, dropTrailingBlank, ih hrest, List.cons_append]
    -- The text is not just two newlines.
    rintro rfl heq
    rcases h with h | ⟨d, hd, hne⟩
    · exact h (List.mem_cons_self ..)
    · have hmem : d ∈ before ++ after := List.mem_append_right _ hd
      rw [heq] at hmem
      exact hne (by simpa using hmem)

/-- A pass over a text that keeps every part without a newline. -/
def KeepsLines (pass : List Char → List Char) : Prop :=
  ∀ {part text : List Char}, part ≠ [] → '\n' ∉ part → part <:+: text → part <:+: pass text

theorem keepsLines_dropAfterBrace (scan : BraceScan) : KeepsLines (dropAfterBrace scan) := by
  rintro part _ - hpart ⟨before, after, rfl⟩
  obtain ⟨before', scan₁, hbefore, -⟩ := dropAfterBrace_append scan before (part ++ after)
  obtain ⟨kept, scan₂, hkept, hsame⟩ := dropAfterBrace_append scan₁ part after
  rw [List.append_assoc, hbefore, hkept, hsame hpart]
  exact ⟨before', dropAfterBrace scan₂ after, List.append_assoc ..⟩

theorem keepsLines_dropBeforeBrace : KeepsLines dropBeforeBrace := by
  rintro part _ - hpart ⟨before, after, rfl⟩
  obtain ⟨before', hbefore, -⟩ := dropBeforeBrace_append before (part ++ after)
  obtain ⟨kept, hkept, hsame⟩ := dropBeforeBrace_append part after
  rw [List.append_assoc, hbefore, hkept, hsame hpart]
  exact ⟨before', dropBeforeBrace after, List.append_assoc ..⟩

theorem keepsLines_squeezeNewlines (seen : Nat) : KeepsLines (squeezeNewlines seen) := by
  rintro part _ - hpart ⟨before, after, rfl⟩
  obtain ⟨before', seen₁, hbefore, -⟩ := squeezeNewlines_append seen before (part ++ after)
  obtain ⟨kept, seen₂, hkept, hsame⟩ := squeezeNewlines_append seen₁ part after
  rw [List.append_assoc, hbefore, hkept, hsame hpart]
  exact ⟨before', squeezeNewlines seen₂ after, List.append_assoc ..⟩

theorem keepsLines_dropTrailingBlank : KeepsLines dropTrailingBlank := by
  rintro part _ hne hpart ⟨before, after, rfl⟩
  obtain ⟨c, hc⟩ := List.exists_mem_of_ne_nil part hne
  have hother : ∃ c ∈ part ++ after, c ≠ '\n' :=
    ⟨c, List.mem_append_left _ hc, fun heq => hpart (heq ▸ hc)⟩
  rw [List.append_assoc, dropTrailingBlank_append (.inr hother),
    dropTrailingBlank_append (.inl hpart)]
  exact ⟨before, dropTrailingBlank after, List.append_assoc ..⟩

/-- The clean-ups of empty lines keep every part without a newline. -/
theorem keepsLines_cleanLines : KeepsLines cleanLines := fun hne hpart h =>
  keepsLines_dropTrailingBlank hne hpart <| keepsLines_squeezeNewlines 0 hne hpart <|
    keepsLines_dropBeforeBrace hne hpart <| keepsLines_dropAfterBrace .elsewhere hne hpart h

/-! ## Brackets around blanks -/

/-- The text has two brackets with nothing but blanks, and at least one, between them. -/
def Hollow (opening closing : Char) (text : List Char) : Prop :=
  ∃ gap, gap ≠ [] ∧ (∀ c ∈ gap, isBlank c = true) ∧ opening :: gap ++ [closing] <:+: text

/-- Searches for hollow brackets. -/
def findsHollow (opening closing : Char) (scan : BracketScan) : List Char → Bool
  | [] => false
  | c :: rest =>
    if isBlank c then findsHollow opening closing scan.blank rest
    else (c = closing && scan = .afterGap) || findsHollow opening closing (.next opening c) rest

section FindsHollow

variable {opening closing : Char}

theorem findsHollow_cons (scan : BracketScan) (c : Char) (rest : List Char) :
    findsHollow opening closing scan (c :: rest) =
      if isBlank c then findsHollow opening closing scan.blank rest
      else (c = closing && scan = .afterGap) ||
        findsHollow opening closing (.next opening c) rest := rfl

/-- A state that has seen more finds more. -/
theorem findsHollow_mono {scan scan' : BracketScan}
    (hscan : scan = .elsewhere ∨ scan = scan' ∨ scan' = .afterGap) {text : List Char}
    (h : findsHollow opening closing scan text = true) :
    findsHollow opening closing scan' text = true := by
  induction text generalizing scan scan' with
  | nil => exact h
  | cons c rest ih =>
    rw [findsHollow_cons] at h ⊢
    split at h
    · next hc =>
      rw [if_pos hc]
      refine ih ?_ h
      rcases hscan with rfl | rfl | rfl
      · exact .inl rfl
      · exact .inr (.inl rfl)
      · exact .inr (.inr rfl)
    · next hc =>
      rw [if_neg hc]
      simp only [Bool.or_eq_true, Bool.and_eq_true, decide_eq_true_eq] at h ⊢
      refine h.imp_left fun hhere => ⟨hhere.1, ?_⟩
      rcases hscan with rfl | rfl | rfl
      · simp at hhere
      · exact hhere.2
      · rfl

/-- Removing blanks makes no brackets hollow. -/
theorem findsHollow_of_thinned {text rest : List Char} (hthin : Thinned text rest)
    {scan : BracketScan} (h : findsHollow opening closing scan rest = true) :
    findsHollow opening closing scan text = true := by
  induction hthin generalizing scan with
  | nil => exact h
  | keep c _ ih =>
    rw [findsHollow_cons] at h ⊢
    split at h
    · next hc => rw [if_pos hc, ih h]
    · next hc =>
      rw [if_neg hc]
      simp only [Bool.or_eq_true] at h ⊢
      exact h.imp_right ih
  | drop hc _ ih =>
    rw [findsHollow_cons, if_pos hc]
    refine findsHollow_mono ?_ (ih h)
    cases scan with
    | elsewhere => exact .inl rfl
    | afterOpening => exact .inr (.inr rfl)
    | afterGap => exact .inr (.inr rfl)

theorem findsHollow_of_blanks {scan : BracketScan} {gap text : List Char}
    (hgap : ∀ c ∈ gap, isBlank c = true)
    (h : findsHollow opening closing scan (gap ++ text) = true) :
    findsHollow opening closing scan.blank text = true := by
  induction gap generalizing scan with
  | nil =>
    refine findsHollow_mono ?_ h
    cases scan with
    | elsewhere => exact .inl rfl
    | afterOpening => exact .inr (.inr rfl)
    | afterGap => exact .inr (.inr rfl)
  | cons c gap ih =>
    rw [List.cons_append, findsHollow_cons, if_pos (hgap c (by simp))] at h
    have := ih (fun d hd => hgap d (by simp [hd])) h
    cases scan <;> exact this

theorem findsHollow_append_right {scan : BracketScan} {text : List Char} (after : List Char)
    (h : findsHollow opening closing scan text = true) :
    findsHollow opening closing scan (text ++ after) = true := by
  induction text generalizing scan with
  | nil => exact absurd h Bool.false_ne_true
  | cons c rest ih =>
    rw [List.cons_append, findsHollow_cons]
    rw [findsHollow_cons] at h
    split at h
    · next hc => rw [if_pos hc, ih h]
    · next hc =>
      rw [if_neg hc]
      simp only [Bool.or_eq_true] at h ⊢
      exact h.imp_right ih

theorem findsHollow_append_left (scan : BracketScan) (before : List Char) {text : List Char}
    (h : findsHollow opening closing .elsewhere text = true) :
    findsHollow opening closing scan (before ++ text) = true := by
  induction before generalizing scan with
  | nil => exact findsHollow_mono (.inl rfl) h
  | cons c before ih =>
    rw [List.cons_append, findsHollow_cons]
    split
    · exact ih _
    · simp [ih]

/-- A gap ends with a closing bracket. -/
theorem findsHollow_gap (hclosing : isBlank closing = false) {gap : List Char}
    (hgap : ∀ c ∈ gap, isBlank c = true) {scan : BracketScan} (hscan : scan ≠ .elsewhere)
    (h : scan = .afterGap ∨ gap ≠ []) :
    findsHollow opening closing scan (gap ++ [closing]) = true := by
  induction gap generalizing scan with
  | nil =>
    have hscan' : scan = .afterGap := h.resolve_right (by simp)
    simp [findsHollow_cons, hclosing, hscan']
  | cons c gap ih =>
    have hc : isBlank c = true := hgap c (by simp)
    have hblank : scan.blank = .afterGap := by cases scan <;> simp_all [BracketScan.blank]
    rw [List.cons_append, findsHollow_cons, if_pos hc]
    exact ih (fun d hd => hgap d (by simp [hd])) (by simp [hblank]) (.inl hblank)

/-- What the search finds, together with what a state holds, is hollow. -/
theorem hollow_of_findsHollow {scan : BracketScan} {held text : List Char}
    (hheld : Held opening scan held) (h : findsHollow opening closing scan text = true) :
    Hollow opening closing (held ++ text) := by
  induction text generalizing scan held with
  | nil => exact absurd h Bool.false_ne_true
  | cons c rest ih =>
    have hskip : ∀ {kept : List Char}, Hollow opening closing (kept ++ rest) →
        (∃ lost, held ++ [c] = lost ++ kept) → Hollow opening closing (held ++ c :: rest) := by
      rintro kept ⟨gap, hne, hgap, hinfix⟩ ⟨lost, hlost⟩
      refine ⟨gap, hne, hgap, hinfix.trans ⟨lost, [], ?_⟩⟩
      rw [List.append_nil, ← List.append_assoc, ← hlost, List.append_assoc, List.singleton_append]
    rw [findsHollow_cons] at h
    split at h
    · next hc =>
      by_cases hnil : held = []
      · subst hnil
        have hscan := hheld.nil
        subst hscan
        exact hskip (@ih .elsewhere [] rfl h) ⟨[c], rfl⟩
      · obtain ⟨hgap, hblank⟩ := hheld.append_blank hnil hc
        exact hskip (ih hgap (hblank ▸ h)) ⟨[], rfl⟩
    · simp only [Bool.or_eq_true, Bool.and_eq_true, decide_eq_true_eq] at h
      rcases h with ⟨rfl, rfl⟩ | h
      · obtain ⟨gap, hne, hgap, rfl⟩ := hheld
        exact ⟨gap, hne, hgap, [], rest, by simp⟩
      · by_cases hc : c = opening
        · rw [BracketScan.next, if_pos hc] at h
          exact hskip (@ih .afterOpening [opening] rfl h) ⟨held, by rw [hc]⟩
        · rw [BracketScan.next, if_neg hc] at h
          exact hskip (@ih .elsewhere [] rfl h) ⟨held ++ [c], by simp⟩

/-- The search finds exactly the hollow brackets. -/
theorem findsHollow_iff (hopening : isBlank opening = false) (hclosing : isBlank closing = false)
    (text : List Char) :
    findsHollow opening closing .elsewhere text = true ↔ Hollow opening closing text := by
  constructor
  · intro h
    have hheld : Held opening .elsewhere [] := rfl
    exact hollow_of_findsHollow hheld h
  · rintro ⟨gap, hne, hgap, before, after, rfl⟩
    rw [List.append_assoc]
    refine findsHollow_append_left _ _ (findsHollow_append_right _ ?_)
    rw [List.cons_append, findsHollow_cons, if_neg (by simp [hopening]),
      BracketScan.next, if_pos rfl, findsHollow_gap hclosing hgap (by simp) (.inr hne),
      Bool.or_true]

/-- Reading what a state holds leads to that state. -/
theorem findsHollow_held (hopening : isBlank opening = false) (hne : opening ≠ closing)
    {scan start : BracketScan} {held : List Char} (hheld : Held opening scan held)
    (hstart : held = [] → start = .elsewhere) (text : List Char) :
    findsHollow opening closing start (held ++ text) = findsHollow opening closing scan text := by
  have hgap : ∀ (gap : List Char), (∀ c ∈ gap, isBlank c = true) → ∀ scan : BracketScan,
      scan ≠ .elsewhere → findsHollow opening closing scan (gap ++ text) =
        findsHollow opening closing (if gap = [] then scan else .afterGap) text := by
    intro gap hblank
    induction gap with
    | nil => intros; rfl
    | cons c gap ih =>
      intro scan hscan
      have hscan' : scan.blank = .afterGap := by cases scan <;> simp_all [BracketScan.blank]
      rw [List.cons_append, findsHollow_cons, if_pos (hblank c (by simp)), hscan',
        ih (fun d hd => hblank d (by simp [hd])) _ (by simp)]
      simp
  by_cases hnil : held = []
  · subst hnil
    rw [hstart rfl, hheld.nil, List.nil_append]
  · obtain ⟨gap, hblank, rfl, hscan⟩ := hheld.exists_gap hnil
    rw [List.cons_append, findsHollow_cons, if_neg (by simp [hopening]),
      BracketScan.next, if_pos rfl, hgap gap hblank _ (by simp), decide_eq_false hne,
      Bool.false_and, Bool.false_or]
    cases scan with
    | elsewhere => simp [Held] at hheld
    | afterOpening =>
      have : gap = [] := by simpa using hscan
      rw [if_pos this]
    | afterGap =>
      have : gap ≠ [] := by simpa using hscan
      rw [if_neg this]

/-- Nothing hollow is left once empty brackets have been joined. -/
theorem JoinRun.not_findsHollow (hopening : isBlank opening = false) (hne : opening ≠ closing)
    {scan start : BracketScan} {held text written : List Char}
    (h : JoinRun opening closing scan held text written) (hstart : held = [] → start = .elsewhere) :
    findsHollow opening closing start written = false := by
  induction h generalizing start with
  | @stop scan held hheld =>
    rw [← List.append_nil held, findsHollow_held hopening hne hheld hstart]
    rfl
  | hold _ _ _ _ ih => exact ih (by simp)
  | close _ _ hclosing _ ih =>
    rw [findsHollow_cons, if_neg (by simp [hopening]), decide_eq_false hne, Bool.false_and,
      Bool.false_or, BracketScan.next, if_pos rfl, findsHollow_cons, if_neg (by simp [hclosing]),
      BracketScan.next, if_neg (Ne.symm hne), ih fun _ => rfl]
    simp
  | reopen hheld _ ih =>
    rw [findsHollow_held hopening hne hheld hstart]
    exact ih (by simp)
  | pass hheld hopen hblank hclose _ ih =>
    have hrest := ih fun _ => rfl
    rw [findsHollow_held hopening hne hheld hstart, findsHollow_cons, BracketScan.next,
      if_neg hopen, hrest, Bool.or_false]
    split
    · next hc =>
      obtain rfl := hblank hc
      obtain rfl := hheld.nil
      exact hrest
    · rw [Bool.and_eq_false_iff, decide_eq_false_iff_not, decide_eq_false_iff_not]
      exact Decidable.not_or_of_imp hclose

/-- Joining empty brackets changes nothing where none are hollow. -/
theorem JoinRun.eq_of_not_findsHollow (hopening : isBlank opening = false) {scan : BracketScan}
    {held text written : List Char} (h : JoinRun opening closing scan held text written)
    (hnone : findsHollow opening closing scan text = false) : written = held ++ text := by
  induction h with
  | stop _ => exact (List.append_nil _).symm
  | hold hheld hne hc _ ih =>
    rw [findsHollow_cons, if_pos hc, (hheld.append_blank hne hc).2] at hnone
    rw [ih hnone, List.append_assoc]
    rfl
  | close _ _ hclosing _ _ => simp [findsHollow_cons, hclosing] at hnone
  | reopen _ _ ih =>
    rw [findsHollow_cons, if_neg (by simp [hopening]), BracketScan.next, if_pos rfl,
      Bool.or_eq_false_iff] at hnone
    rw [ih hnone.2]
    rfl
  | pass hheld hopen hblank _ _ ih =>
    rw [findsHollow_cons, BracketScan.next, if_neg hopen] at hnone
    split at hnone
    · next hc =>
      obtain rfl := hblank hc
      obtain rfl := hheld.nil
      rw [ih hnone]
      rfl
    · rw [Bool.or_eq_false_iff] at hnone
      rw [ih hnone.2]
      rfl

end FindsHollow

/-- The brackets that are looked for are two different characters, and not blank. -/
structure IsBracketPair (opening closing : Char) : Prop where
  opening_not_blank : isBlank opening = false
  closing_not_blank : isBlank closing = false
  ne : opening ≠ closing

section Joining

variable {opening closing : Char} (hpair : IsBracketPair opening closing)
include hpair

theorem not_hollow_joinEmpty (text : List Char) :
    ¬Hollow opening closing (joinEmpty opening closing [] text) := by
  rw [← findsHollow_iff hpair.opening_not_blank hpair.closing_not_blank, Bool.not_eq_true]
  exact (joinRun_joinEmpty opening closing text).not_findsHollow hpair.opening_not_blank hpair.ne
    fun _ => rfl

/-- Joining empty brackets changes a text exactly when some of them are hollow. -/
theorem joinEmpty_eq_self_iff (text : List Char) :
    joinEmpty opening closing [] text = text ↔ ¬Hollow opening closing text := by
  constructor
  · intro h
    exact h ▸ not_hollow_joinEmpty hpair text
  · intro h
    rw [← findsHollow_iff hpair.opening_not_blank hpair.closing_not_blank, Bool.not_eq_true] at h
    exact (joinRun_joinEmpty opening closing text).eq_of_not_findsHollow hpair.opening_not_blank h

/-- Removing blanks makes no brackets hollow. -/
theorem Thinned.not_hollow {text rest : List Char} (hthin : Thinned text rest)
    (h : ¬Hollow opening closing text) : ¬Hollow opening closing rest := by
  rw [← findsHollow_iff hpair.opening_not_blank hpair.closing_not_blank] at h ⊢
  exact fun hrest => h (findsHollow_of_thinned hthin hrest)

end Joining

theorem Hollow.of_part {opening closing : Char} {part text : List Char}
    (h : Hollow opening closing part) (hpart : part <:+: text) : Hollow opening closing text := by
  obtain ⟨gap, hne, hgap, hinfix⟩ := h
  exact ⟨gap, hne, hgap, hinfix.trans hpart⟩

/-! ## All three kinds of brackets -/

/-- The text has curly, round or square brackets with nothing but blanks, and at least one,
between them. -/
def HasHollowBrackets (text : List Char) : Prop :=
  Hollow '\x7b' '\x7d' text ∨ Hollow '(' ')' text ∨ Hollow '[' ']' text

theorem isBracketPair_curly : IsBracketPair '\x7b' '\x7d' :=
  ⟨by decide, by decide, by decide⟩

theorem isBracketPair_round : IsBracketPair '(' ')' := ⟨by decide, by decide, by decide⟩

theorem isBracketPair_square : IsBracketPair '[' ']' := ⟨by decide, by decide, by decide⟩

theorem HasHollowBrackets.of_part {part text : List Char} (h : HasHollowBrackets part)
    (hpart : part <:+: text) : HasHollowBrackets text :=
  h.imp (·.of_part hpart) (Or.imp (·.of_part hpart) (·.of_part hpart))

instance (text : List Char) : Decidable (HasHollowBrackets text) :=
  have hfinds {opening closing : Char} (hpair : IsBracketPair opening closing) :=
    findsHollow_iff hpair.opening_not_blank hpair.closing_not_blank text
  decidable_of_iff
    (findsHollow '\x7b' '\x7d' .elsewhere text = true ∨ findsHollow '(' ')' .elsewhere text = true
      ∨ findsHollow '[' ']' .elsewhere text = true)
    (or_congr (hfinds isBracketPair_curly)
      (or_congr (hfinds isBracketPair_round) (hfinds isBracketPair_square)))

theorem thinned_collapse (text : List Char) : Thinned text (collapse text) :=
  (thinned_joinEmpty ..).trans <| (thinned_joinEmpty ..).trans (thinned_joinEmpty ..)

theorem thinned_cleanUp (text : List Char) : Thinned text (cleanUp text) :=
  (thinned_collapse text).trans (thinned_cleanLines _)

theorem Thinned.not_hasHollowBrackets {text rest : List Char} (hthin : Thinned text rest)
    (h : ¬HasHollowBrackets text) : ¬HasHollowBrackets rest := by
  simp only [HasHollowBrackets, not_or] at h ⊢
  exact ⟨hthin.not_hollow isBracketPair_curly h.1, hthin.not_hollow isBracketPair_round h.2.1,
    hthin.not_hollow isBracketPair_square h.2.2⟩

/-- Each kind of brackets stays joined while the others are joined. -/
theorem not_hasHollowBrackets_collapse (text : List Char) :
    ¬HasHollowBrackets (collapse text) := by
  simp only [HasHollowBrackets, not_or]
  refine ⟨?_, ?_, not_hollow_joinEmpty isBracketPair_square _⟩
  · exact (thinned_joinEmpty ..).not_hollow isBracketPair_curly
      ((thinned_joinEmpty ..).not_hollow isBracketPair_curly
        (not_hollow_joinEmpty isBracketPair_curly _))
  · exact (thinned_joinEmpty ..).not_hollow isBracketPair_round
      (not_hollow_joinEmpty isBracketPair_round _)

theorem not_hasHollowBrackets_cleanUp (text : List Char) : ¬HasHollowBrackets (cleanUp text) :=
  (thinned_cleanLines _).not_hasHollowBrackets (not_hasHollowBrackets_collapse text)

/-- The clean-ups of brackets change a text exactly when some brackets are hollow. -/
theorem collapse_eq_self_iff (text : List Char) :
    collapse text = text ↔ ¬HasHollowBrackets text := by
  constructor
  · intro h
    exact h ▸ not_hasHollowBrackets_collapse text
  · intro h
    simp only [HasHollowBrackets, not_or] at h
    rw [collapse, (joinEmpty_eq_self_iff isBracketPair_curly text).2 h.1,
      (joinEmpty_eq_self_iff isBracketPair_round text).2 h.2.1,
      (joinEmpty_eq_self_iff isBracketPair_square text).2 h.2.2]

end DartRecords.Layout
