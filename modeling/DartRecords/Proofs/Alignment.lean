import DartRecords.Proofs.LayoutRuns

/-!
# Closing brackets align with what they close

The stack of layout holds markers, and it is the height of the stack that indents a line.  To say
which line a closing bracket belongs to, this module runs layout once more with a note on each
marker: the position of the line that has pushed it.  `trace` is that run.  Without the notes it is
the run of layout (`placeLines_eq_ok_iff`).

The invariant is `Anchored`: of every entry on the stack, the lines that have been placed since its
own line are deeper than the entries below it, and if the entry is a bracket, then its own line
stands exactly at their height.  A step keeps it (`Anchored.step`), so it holds along every run, and
a line that pops an entry is placed at the height below that entry.
-/

namespace DartRecords.Layout

open Text (trim)

/-! ## Markers with the lines that have pushed them -/

/-- A marker on the stack, with the position of the line that has pushed it. -/
structure Entry where
  marker : Marker
  line : Nat
  deriving DecidableEq, Repr

/-- The stack of layout that entries stand for. -/
def markers (entries : List Entry) : Stack := entries.map (·.marker)

/-- Pops entries up to and including the first one with a marker, and gives that one and the
rest. -/
def popTo? (m : Marker) : List Entry → Option (Entry × List Entry)
  | [] => none
  | top :: rest => if top.marker = m then some (top, rest) else popTo? m rest

/-- The entries after the first character of the line at a position, and the entry that the
character has popped last if it is a closing bracket. -/
def enterAt (n : Nat) (entries : List Entry) (first : Char) : Option (Option Entry × List Entry) :=
  match closer? first with
  | some m => (popTo? m entries).map fun popped => (some popped.1, popped.2)
  | none =>
    if first = '.' && (markers entries).head? ≠ some .chain then some (none, ⟨.chain, n⟩ :: entries)
    else some (none, entries)

/-- The entries after the last character of the line at a position. -/
def leaveAt (n : Nat) (entries : List Entry) (last : Char) : List Entry :=
  match opener? last with
  | some m => ⟨m, n⟩ :: entries
  | none =>
    if last = ':' || last = '=' then
      if (markers entries).head? = some .continuation then entries
      else ⟨.continuation, n⟩ :: entries
    else if last = ';' || last = ',' then
      match entries with
      | ⟨.chain, _⟩ :: rest => rest
      | ⟨.continuation, _⟩ :: rest => rest
      | _ => entries
    else entries

/-- A placed line, and the entry that it has popped last if it starts with a closing bracket. -/
structure Note where
  placed : Placed
  closed : Option Entry
  deriving DecidableEq, Repr

/-- Places the trimmed line at a position. -/
def placeAt (n : Nat) (entries : List Entry) (line : List Char) : Option (Note × List Entry) :=
  match line with
  | [] => some (⟨.blank, none⟩, entries)
  | first :: rest =>
    match enterAt n entries first with
    | none => none
    | some (closed, inner) =>
      some (⟨.line inner.length line, closed⟩,
        if isComment line then inner else leaveAt n inner (rest.getLast?.getD first))

/-- Places the lines of a text from a position on. -/
def trace (n : Nat) (entries : List Entry) : List (List Char) → Option (List Note × List Entry)
  | [] => some ([], entries)
  | raw :: rest =>
    match placeAt n entries (trim raw) with
    | none => none
    | some (note, after) =>
      (trace (n + 1) after rest).map fun others => (note :: others.1, others.2)

/-! ## Without the notes -/

@[simp] theorem length_markers (entries : List Entry) :
    (markers entries).length = entries.length := List.length_map ..

theorem close?_markers (m : Marker) (entries : List Entry) :
    close? m (markers entries) = (popTo? m entries).map fun popped => markers popped.2 := by
  induction entries with
  | nil => rfl
  | cons top rest ih =>
    rw [popTo?]
    change (if top.marker = m then some (markers rest) else close? m (markers rest)) = _
    split
    · rfl
    · exact ih

theorem enter_markers (n : Nat) (entries : List Entry) (first : Char) :
    enter (markers entries) first = (enterAt n entries first).map fun entered =>
      markers entered.2 := by
  rw [enter, enterAt]
  cases closer? first with
  | some m =>
    dsimp only
    rw [close?_markers, Option.map_map]
    rfl
  | none =>
    dsimp only
    split
    · rfl
    · rfl

theorem leave_markers (n : Nat) (entries : List Entry) (last : Char) :
    leave (markers entries) last = markers (leaveAt n entries last) := by
  unfold leave leaveAt
  cases opener? last with
  | some m => rfl
  | none =>
    dsimp only
    split
    · split
      · rfl
      · rfl
    · split
      · rcases entries with _ | ⟨⟨marker, line⟩, rest⟩
        · rfl
        · cases marker <;> rfl
      · rfl

theorem place_markers (n : Nat) (entries : List Entry) (line : List Char) :
    place (markers entries) line =
      (placeAt n entries line).map fun noted => (noted.1.placed, markers noted.2) := by
  cases line with
  | nil => rfl
  | cons first rest =>
    rw [place, placeAt, enter_markers n]
    rcases enterAt n entries first with _ | ⟨closed, inner⟩
    · rfl
    · dsimp only [Option.map_some]
      rw [length_markers, leave_markers n, apply_ite markers]

/-- A trace is a run of layout with notes. -/
theorem placeLines_eq_ok_iff {k : Nat} (n : Nat) {entries : List Entry} {lines : List (List Char)}
    {placed : List Placed} {final : Stack} :
    placeLines k (markers entries) lines = .ok (placed, final) ↔
      ∃ notes after, trace n entries lines = some (notes, after) ∧ notes.map (·.placed) = placed ∧
        markers after = final := by
  induction lines generalizing k n entries placed with
  | nil =>
    constructor
    · intro h
      cases h
      exact ⟨[], entries, rfl, rfl, rfl⟩
    · rintro ⟨notes, after, h, rfl, rfl⟩
      cases h
      rfl
  | cons raw rest ih =>
    rw [placeLines_cons_eq_ok, place_markers n, trace]
    rcases placeAt n entries (trim raw) with _ | ⟨note, between⟩
    · simp
    · constructor
      · rintro ⟨one, stack, others, hone, hothers, rfl⟩
        cases hone
        obtain ⟨notes, after, htrace, rfl, rfl⟩ := (ih (n + 1)).1 hothers
        exact ⟨note :: notes, after, Option.map_eq_some_iff.2 ⟨_, htrace, rfl⟩, rfl, rfl⟩
      · rintro ⟨notes, after, h, rfl, rfl⟩
        obtain ⟨⟨others, last⟩, htrace, hnotes⟩ := Option.map_eq_some_iff.1 h
        cases hnotes
        exact ⟨note.placed, markers between, others.map (·.placed), rfl,
          (ih (n + 1)).2 ⟨others, last, htrace, rfl, rfl⟩, rfl⟩

/-! ## What a step can do -/

theorem popTo?_cases {m : Marker} {entries rest : List Entry} {e : Entry}
    (h : popTo? m entries = some (e, rest)) : e.marker = m ∧ e :: rest <:+ entries := by
  induction entries with
  | nil => cases h
  | cons top below ih =>
    rw [popTo?] at h
    split at h
    · next hm =>
      cases h
      exact ⟨hm, List.suffix_rfl⟩
    · exact ⟨(ih h).1, (ih h).2.trans (List.suffix_cons ..)⟩

/-- The first character of a line closes a bracket, or starts a chain, or does nothing. -/
theorem enterAt_cases {n : Nat} {entries inner : List Entry} {first : Char} {closed : Option Entry}
    (h : enterAt n entries first = some (closed, inner)) :
    (∃ e, closer? first = some e.marker ∧ closed = some e ∧ e :: inner <:+ entries) ∨
    closer? first = none ∧ closed = none ∧ (inner = ⟨.chain, n⟩ :: entries ∨ inner = entries) := by
  rw [enterAt] at h
  split at h
  · next m hm =>
    obtain ⟨⟨e, rest⟩, hpop, hpair⟩ := Option.map_eq_some_iff.1 h
    cases hpair
    obtain ⟨rfl, hsuffix⟩ := popTo?_cases hpop
    exact .inl ⟨e, hm, rfl, hsuffix⟩
  · next hnone =>
    split at h
    · cases h
      exact .inr ⟨hnone, rfl, .inl rfl⟩
    · cases h
      exact .inr ⟨hnone, rfl, .inr rfl⟩

/-- The last character of a line pushes a marker, or pops one, or does nothing. -/
theorem leaveAt_cases (n : Nat) (entries : List Entry) (last : Char) :
    (∃ m, leaveAt n entries last = ⟨m, n⟩ :: entries ∧
      (m.isBracket = true → opener? last = some m)) ∨ leaveAt n entries last <:+ entries := by
  unfold leaveAt
  split
  · next m hm => exact .inl ⟨m, rfl, fun _ => hm⟩
  · split
    · split
      · exact .inr List.suffix_rfl
      · exact .inl ⟨.continuation, rfl, fun hm => absurd hm (by decide)⟩
    · split
      · split
        · exact .inr (List.suffix_cons ..)
        · exact .inr (List.suffix_cons ..)
        · exact .inr List.suffix_rfl
      · exact .inr List.suffix_rfl

/-! ## The invariant -/

/-- The line is no comment, and opens a bracket at its end. -/
def EndsOpening (m : Marker) (line : List Char) : Prop :=
  isComment line = false ∧ line.getLast?.bind opener? = some m

/-- What the lines placed so far tell of an entry that has a number of entries below it. -/
structure AnchoredAt (placed : List Placed) (height : Nat) (e : Entry) : Prop where
  opening : e.marker.isBracket = true →
    ∃ line, placed[e.line]? = some (.line height line) ∧ EndsOpening e.marker line
  deeper : ∀ k, e.line < k → ∀ depth line, placed[k]? = some (.line depth line) → height < depth

/-- Every entry is where the lines placed so far put it. -/
inductive Anchored (placed : List Placed) : List Entry → Prop where
  | nil : Anchored placed []
  | cons {e : Entry} {rest : List Entry} :
      AnchoredAt placed rest.length e → Anchored placed rest → Anchored placed (e :: rest)

section Anchored

variable {placed : List Placed} {entries : List Entry}

theorem Anchored.of_suffix {rest : List Entry} (h : Anchored placed entries)
    (hsuffix : rest <:+ entries) : Anchored placed rest := by
  induction h with
  | nil =>
    rw [List.suffix_nil.1 hsuffix]
    exact .nil
  | cons htop hbelow ih =>
    rcases List.suffix_cons_iff.1 hsuffix with rfl | hsuffix
    · exact .cons htop hbelow
    · exact ih hsuffix

theorem Anchored.head {e : Entry} {rest : List Entry} (h : Anchored placed (e :: rest)) :
    AnchoredAt placed rest.length e := by
  cases h with
  | cons htop _ => exact htop

/-- A marker that the next line pushes at its start has no line after its own yet. -/
theorem anchoredAt_chain (placed : List Placed) (height : Nat) :
    AnchoredAt placed height ⟨.chain, placed.length⟩ where
  opening hm := by
    change Marker.chain.isBracket = true at hm
    exact absurd hm (by decide)
  deeper k hk depth line hline := by
    have hlt : k < placed.length := (List.getElem?_eq_some_iff.1 hline).1
    exact absurd hk (Nat.lt_asymm hlt)

/-- A marker that the last line has pushed at its end. -/
theorem anchoredAt_last {m : Marker} {height : Nat} {line : List Char}
    (hopening : m.isBracket = true → EndsOpening m line) :
    AnchoredAt (placed ++ [.line height line]) height ⟨m, placed.length⟩ where
  opening hm := ⟨line, List.getElem?_concat_length, hopening hm⟩
  deeper k hk depth other hother := by
    have hlt := (List.getElem?_eq_some_iff.1 hother).1
    rw [List.length_append, List.length_singleton] at hlt
    change placed.length < k at hk
    omega

/-- An entry stays anchored if the next line is deeper than the entries below it. -/
theorem AnchoredAt.append {e : Entry} {height : Nat} (h : AnchoredAt placed height e)
    {next : Placed} (hnext : ∀ depth line, next = .line depth line → height < depth) :
    AnchoredAt (placed ++ [next]) height e where
  opening hm := by
    obtain ⟨line, hline, hends⟩ := h.opening hm
    have hlt := (List.getElem?_eq_some_iff.1 hline).1
    exact ⟨line, by rw [List.getElem?_append_left hlt, hline], hends⟩
  deeper k hk depth line hline := by
    rcases Nat.lt_or_ge k placed.length with hlt | hge
    · rw [List.getElem?_append_left hlt] at hline
      exact h.deeper k hk depth line hline
    · rw [List.getElem?_append_right hge] at hline
      have hmem := List.mem_of_getElem? hline
      exact hnext depth line (List.mem_singleton.1 hmem).symm

/-- Entries stay anchored if the next line is as deep as they are many. -/
theorem Anchored.append (h : Anchored placed entries) {next : Placed}
    (hnext : ∀ depth line, next = .line depth line → entries.length ≤ depth) :
    Anchored (placed ++ [next]) entries := by
  induction h with
  | nil => exact .nil
  | cons htop _ ih =>
    have hdeeper := fun depth line hline => hnext depth line hline
    simp only [List.length_cons] at hdeeper
    exact .cons (htop.append hdeeper) (ih fun depth line hline =>
      Nat.le_of_succ_le (hdeeper depth line hline))

/-- Where the first character of a line has left the entries, they are still anchored, and so is the
entry that it has popped last. -/
theorem Anchored.enterAt {first : Char} {closed : Option Entry} {inner : List Entry}
    (h : Anchored placed entries)
    (henter : Layout.enterAt placed.length entries first = some (closed, inner)) :
    Anchored placed inner ∧ ∀ e, closed = some e → AnchoredAt placed inner.length e := by
  rcases enterAt_cases henter with ⟨e, -, rfl, hsuffix⟩ | ⟨-, rfl, rfl | rfl⟩
  · have hpopped := h.of_suffix hsuffix
    refine ⟨hpopped.of_suffix (List.suffix_cons ..), fun e' he' => ?_⟩
    cases he'
    exact hpopped.head
  · exact ⟨.cons (anchoredAt_chain placed entries.length) h, fun _ he => nomatch he⟩
  · exact ⟨h, fun _ he => nomatch he⟩

theorem Anchored.leaveAt {first : Char} {rest : List Char}
    (h : Anchored (placed ++ [.line entries.length (first :: rest)]) entries)
    (hcomment : isComment (first :: rest) = false) :
    Anchored (placed ++ [.line entries.length (first :: rest)])
      (Layout.leaveAt placed.length entries (rest.getLast?.getD first)) := by
  rcases leaveAt_cases placed.length entries (rest.getLast?.getD first) with
    ⟨m, hpush, hopener⟩ | hsuffix
  · rw [hpush]
    refine .cons (anchoredAt_last fun hm => ⟨hcomment, ?_⟩) h
    rw [List.getLast?_cons]
    exact hopener hm
  · exact h.of_suffix hsuffix

/-- A line keeps all entries anchored, and is placed at the height below the entry that it has
popped last. -/
theorem Anchored.step {line : List Char} {note : Note} {after : List Entry}
    (h : Anchored placed entries)
    (hplace : placeAt placed.length entries line = some (note, after)) :
    Anchored (placed ++ [note.placed]) after ∧
    ∀ depth first rest, note.placed = .line depth (first :: rest) → ∀ m, closer? first = some m →
      ∃ j, note.closed = some ⟨m, j⟩ ∧ AnchoredAt placed depth ⟨m, j⟩ := by
  cases line with
  | nil =>
    cases hplace
    refine ⟨h.append fun depth line hline => ?_, fun depth first rest hline => ?_⟩
    · cases hline
    · cases hline
  | cons first rest =>
    rw [placeAt] at hplace
    rcases henter : Layout.enterAt placed.length entries first with _ | ⟨closed, inner⟩
    · rw [henter] at hplace
      cases hplace
    · rw [henter] at hplace
      cases hplace
      obtain ⟨hinner, hclosed⟩ := h.enterAt henter
      have hplaced : Anchored (placed ++ [.line inner.length (first :: rest)]) inner :=
        hinner.append fun depth line hline => by
          cases hline
          exact Nat.le_refl _
      constructor
      · dsimp only
        split
        · exact hplaced
        · next hcomment => exact hplaced.leaveAt (by simpa using hcomment)
      · intro depth first' rest' hline m hm
        cases hline
        rcases enterAt_cases henter with ⟨⟨m', j⟩, hm', rfl, -⟩ | ⟨hnone, -⟩
        · cases hm.symm.trans hm'
          exact ⟨j, rfl, hclosed _ rfl⟩
        · cases hm.symm.trans hnone

/-- Along a run, every line that starts with a closing bracket is placed at the height below the
entry that it has popped last. -/
theorem Anchored.run {lines : List (List Char)} {notes : List Note} {after : List Entry}
    (h : Anchored placed entries) (htrace : trace placed.length entries lines = some (notes, after))
    {i : Nat} {note : Note} (hi : notes[i]? = some note) {depth : Nat} {first : Char}
    {rest : List Char} (hline : note.placed = .line depth (first :: rest)) {m : Marker}
    (hm : closer? first = some m) :
    ∃ j, note.closed = some ⟨m, j⟩ ∧
      AnchoredAt (placed ++ (notes.take i).map (·.placed)) depth ⟨m, j⟩ := by
  induction lines generalizing placed entries notes i with
  | nil =>
    cases htrace
    cases hi
  | cons raw lines ih =>
    rw [trace] at htrace
    rcases hplace : placeAt placed.length entries (trim raw) with _ | ⟨one, between⟩
    · rw [hplace] at htrace
      cases htrace
    · rw [hplace] at htrace
      obtain ⟨⟨others, last⟩, hothers, hnotes⟩ := Option.map_eq_some_iff.1 htrace
      cases hnotes
      obtain ⟨hbetween, hclosed⟩ := h.step hplace
      cases i with
      | zero =>
        cases hi
        simpa using hclosed depth first rest hline m hm
      | succ i =>
        have hlength : (placed ++ [one.placed]).length = placed.length + 1 := by simp
        rw [← hlength] at hothers
        simpa using ih hbetween hothers hi

end Anchored

/-! ## Layout -/

/-- Every line that starts with a closing bracket has popped last the marker that an earlier line
has pushed by the opening bracket at its end.  Both lines stand at the same depth, and the lines
between them are deeper. -/
def ClosingAligned (notes : List Note) : Prop :=
  let placed := notes.map (·.placed)
  ∀ (i depth : Nat) (first : Char) (rest : List Char) (m : Marker),
    placed[i]? = some (.line depth (first :: rest)) → closer? first = some m →
    ∃ (j : Nat) (opening : List Char), notes[i]?.bind (·.closed) = some ⟨m, j⟩ ∧ j < i ∧
      placed[j]? = some (.line depth opening) ∧ EndsOpening m opening ∧
      ∀ (k : Nat), j < k → k < i → ∀ depth' line,
        placed[k]? = some (.line depth' line) → depth < depth'

theorem isBracket_of_closer {c : Char} {m : Marker} (h : closer? c = some m) :
    m.isBracket = true := by
  rw [closer?] at h
  split_ifs at h <;> cases h <;> rfl

theorem closingAligned_of_trace {lines : List (List Char)} {notes : List Note} {after : List Entry}
    (htrace : trace 0 [] lines = some (notes, after)) : ClosingAligned notes := by
  intro i depth first rest m hline hm
  rw [List.getElem?_map] at hline
  obtain ⟨note, hnote, hplaced⟩ := Option.map_eq_some_iff.1 hline
  obtain ⟨j, hclosed, hanchored⟩ :=
    @Anchored.run [] [] lines notes after .nil htrace i note hnote depth
    first rest hplaced m hm
  rw [List.nil_append, List.map_take] at hanchored
  obtain ⟨opening, hopening, hends⟩ := hanchored.opening (isBracket_of_closer hm)
  have hlt : j < i :=
    Nat.lt_of_lt_of_le (List.getElem?_eq_some_iff.1 hopening).1 (List.length_take_le ..)
  rw [List.getElem?_take_of_lt hlt] at hopening
  refine ⟨j, opening, by rw [hnote]; exact hclosed, hlt, hopening, hends, ?_⟩
  intro k hjk hki depth' line hk
  exact hanchored.deeper k hjk depth' line (by rwa [List.getElem?_take_of_lt hki])

/-- Where layout returns a text, closing brackets are aligned with what they close. -/
theorem closing_brackets_align {indentUnit raw : List Char} {laid : Laid}
    (h : layout indentUnit raw = .ok laid) :
    ∃ notes entries, trace 0 [] (splitLines raw) = some (notes, entries) ∧
      placeLines 1 [] (splitLines raw) = .ok (notes.map (·.placed), markers entries) ∧
      laid.text = cleanUp (indent indentUnit (notes.map (·.placed))) ∧ ClosingAligned notes := by
  rw [layout] at h
  split at h
  · cases h
  · next placed final hplaced =>
    cases h
    obtain ⟨notes, entries, htrace, rfl, rfl⟩ := (@placeLines_eq_ok_iff 1 0 [] _ _ _).1 hplaced
    exact ⟨notes, entries, htrace, hplaced, rfl, closingAligned_of_trace htrace⟩

/-- A call with a continuation, a chain, a list and a block in it. -/
def callCode : List Char :=
  "f(\na =\nb\n.c([\n1,\n], \x7b\nd:\ne\n\x7d)\n);".toList

/-- The last line closes the bracket of the first one, over a chain and a continuation that nothing
has ended. -/
theorem callCode_aligned : ∃ laid, layout [' ', ' '] callCode = .ok laid ∧
    ∃ notes entries, trace 0 [] (splitLines callCode) = some (notes, entries) ∧
      notes[9]?.bind (·.closed) = some ⟨.paren, 0⟩ ∧
      ∀ (k : Nat), 0 < k → k < 9 → ∀ depth line,
        (notes.map (·.placed))[k]? = some (.line depth line) → 0 < depth := by
  have hok : (layout [' ', ' '] callCode).toBool = true := by decide +kernel
  rcases hlaid : layout [' ', ' '] callCode with e | laid
  · rw [hlaid] at hok
    cases hok
  · obtain ⟨notes, entries, htrace, -, -, haligned⟩ := closing_brackets_align hlaid
    have hnote : (trace 0 [] (splitLines callCode)).bind (fun traced => traced.1[9]?) =
        some ⟨.line 0 [')', ';'], some ⟨.paren, 0⟩⟩ := by decide +kernel
    rw [htrace] at hnote
    change notes[9]? = _ at hnote
    refine ⟨laid, rfl, notes, entries, htrace, by rw [hnote]; rfl, ?_⟩
    obtain ⟨j, opening, hclosed, -, -, -, hdeeper⟩ := haligned 9 0 ')' [';'] .paren
      (by rw [List.getElem?_map, hnote]; rfl) rfl
    rw [hnote] at hclosed
    cases hclosed
    exact hdeeper

end DartRecords.Layout
