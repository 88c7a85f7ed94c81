import DartRecords.Proofs.StandingLines

/-!
# Joining the rows of a page

The clean-ups of brackets run over a text that is indented already, and the gap between two brackets
may reach over newlines and indentation.  On a page they are a function of the rows: each line is
joined by itself, and a row that ends with an opening bracket takes the next row in if that one
starts with the closing bracket (`joinRows`).  The indentation of one level does not occur in it.

* `exists_joinEmpty_append` parts a text at any character that is not blank, and `joinEmpty_line` is
  about a line, the blanks after it and what follows them.
* `joinEmpty_rows` gets from these to the text of rows.
* A joined row starts as its first line does and ends as its last one does (`start?_joinRows`,
  `isChain_joinRows_iff`), so that whatever depends on the ends of lines can be read off either
  page.
* `cleanUp_text` puts both halves of the clean-ups together, and `layout_eq` says what layout
  returns: the text of one page, which is found without knowing the indentation of one level.
-/

namespace DartRecords.Layout

open Text (isBlank trim)

/-! ## Joining beside a character that is not blank -/

section Joining

variable {opening closing : Char}

/-- Reading a character writes something out and holds something back, whatever follows. -/
theorem exists_joinEmpty_cons (opening closing : Char) (pending : List Char) (c : Char) :
    ∃ written held, ∀ rest, joinEmpty opening closing pending (c :: rest) =
      written ++ joinEmpty opening closing held rest := by
  cases pending with
  | nil =>
    by_cases hopen : c = opening
    · exact ⟨[], [c], fun rest => by rw [joinEmpty, if_pos hopen]; rfl⟩
    · exact ⟨[c], [], fun rest => by rw [joinEmpty, if_neg hopen]; rfl⟩
  | cons first earlier =>
    by_cases hblank : isBlank c = true
    · exact ⟨[], c :: first :: earlier, fun rest => by rw [joinEmpty, if_pos hblank]; rfl⟩
    · by_cases hclose : (c = closing && !earlier.isEmpty) = true
      · exact ⟨[opening, closing], [], fun rest =>
          by rw [joinEmpty, if_neg hblank, if_pos hclose]; rfl⟩
      · by_cases hopen : c = opening
        · exact ⟨(first :: earlier).reverse, [c], fun rest => by
            rw [joinEmpty, if_neg hblank, if_neg hclose, if_pos hopen]⟩
        · exact ⟨(first :: earlier).reverse ++ [c], [], fun rest => by
            rw [joinEmpty, if_neg hblank, if_neg hclose, if_neg hopen, List.append_assoc]; rfl⟩

theorem joinEmpty_nil_cons_of_ne {x : Char} (hx : x ≠ opening) (rest : List Char) :
    joinEmpty opening closing [] (x :: rest) = x :: joinEmpty opening closing [] rest := by
  rw [joinEmpty, if_neg hx]

theorem joinEmpty_nil_opening (rest : List Char) :
    joinEmpty opening closing [] (opening :: rest) = joinEmpty opening closing [opening] rest := by
  rw [joinEmpty, if_pos rfl]

/-- A character that is not blank ends what is held back: it closes the bracket over a gap, or all
of it is written out, and joining starts anew. -/
theorem joinEmpty_held_cons {c : Char} (hc : isBlank c = false) (first : Char)
    (earlier rest : List Char) :
    joinEmpty opening closing (first :: earlier) (c :: rest) =
      if c = closing ∧ earlier ≠ [] then opening :: closing :: joinEmpty opening closing [] rest
      else (first :: earlier).reverse ++ joinEmpty opening closing [] (c :: rest) := by
  have hclose : (c = closing && !earlier.isEmpty) = decide (c = closing ∧ earlier ≠ []) := by
    cases earlier <;> simp
  rw [joinEmpty.eq_3, hc, if_neg Bool.false_ne_true, hclose, joinEmpty]
  by_cases hboth : c = closing ∧ earlier ≠ []
  · rw [if_pos hboth, if_pos (decide_eq_true hboth)]
  · rw [if_neg hboth, if_neg (by simpa using hboth)]
    split <;> rfl

/-- Blanks after an opening bracket are held back with it. -/
theorem joinEmpty_held_append {gap : List Char} (hgap : ∀ c ∈ gap, isBlank c = true) (first : Char)
    (earlier text : List Char) :
    joinEmpty opening closing (first :: earlier) (gap ++ text) =
      joinEmpty opening closing (gap.reverse ++ first :: earlier) text := by
  induction gap generalizing first earlier with
  | nil => rfl
  | cons c gap ih =>
    rw [List.cons_append, joinEmpty, if_pos (hgap c List.mem_cons_self),
      ih fun d hd => hgap d (List.mem_cons_of_mem _ hd), List.reverse_cons, List.append_assoc]
    rfl

variable (hpair : IsBracketPair opening closing)
include hpair

/-- Joining goes on at a character that is not blank as if nothing stood before it. -/
theorem exists_joinEmpty_append {x : Char} (hx : isBlank x = false) (pending before : List Char) :
    ∃ written, ∀ after, joinEmpty opening closing pending (before ++ x :: after) =
      written ++ joinEmpty opening closing [] (x :: after) := by
  induction before generalizing pending with
  | nil =>
    cases pending with
    | nil => exact ⟨[], fun after => rfl⟩
    | cons first earlier =>
      by_cases hclose : x = closing ∧ earlier ≠ []
      · -- The character closes the bracket that is held back, so it opens none.
        have hx' : x ≠ opening := by
          rw [hclose.1]
          exact hpair.ne.symm
        refine ⟨[opening], fun after => ?_⟩
        rw [List.nil_append, joinEmpty_held_cons hx, if_pos hclose,
          joinEmpty_nil_cons_of_ne hx', hclose.1]
        rfl
      · refine ⟨(first :: earlier).reverse, fun after => ?_⟩
        rw [List.nil_append, joinEmpty_held_cons hx, if_neg hclose]
  | cons c before ih =>
    obtain ⟨written, held, hstep⟩ := exists_joinEmpty_cons opening closing pending c
    obtain ⟨more, hmore⟩ := ih held
    refine ⟨written ++ more, fun after => ?_⟩
    rw [List.cons_append, hstep, hmore, List.append_assoc]

/-- Blanks at the start stay. -/
theorem joinEmpty_blanks_append {gap : List Char} (hgap : ∀ c ∈ gap, isBlank c = true)
    (text : List Char) :
    joinEmpty opening closing [] (gap ++ text) = gap ++ joinEmpty opening closing [] text := by
  induction gap with
  | nil => rfl
  | cons c gap ih =>
    have hc : c ≠ opening := by
      intro heq
      have hblank := hgap c List.mem_cons_self
      rw [heq, hpair.opening_not_blank] at hblank
      cases hblank
    rw [List.cons_append, joinEmpty_nil_cons_of_ne hc, ih fun d hd =>
      hgap d (List.mem_cons_of_mem _ hd), List.cons_append]

/-- A gap after an opening bracket goes if the closing bracket follows it, and stays if not. -/
theorem joinEmpty_opening_gap {gap text : List Char} (hgap : ∀ c ∈ gap, isBlank c = true)
    (hne : gap ≠ []) (htext : ∀ c ∈ text.head?, isBlank c = false) :
    joinEmpty opening closing [] (opening :: (gap ++ text)) =
      opening ::
        ((if text.head? = some closing then [] else gap) ++ joinEmpty opening closing [] text) := by
  obtain ⟨last, earlier, hheld⟩ : ∃ last earlier, gap.reverse ++ [opening] =
      last :: (earlier ++ [opening]) := by
    obtain ⟨last, earlier, hreverse⟩ :=
      List.exists_cons_of_ne_nil (mt List.reverse_eq_nil_iff.1 hne)
    exact ⟨last, earlier, by rw [hreverse]; rfl⟩
  have hwritten : (last :: (earlier ++ [opening])).reverse = opening :: gap := by
    rw [← hheld, List.reverse_append, List.reverse_reverse]
    rfl
  rw [joinEmpty_nil_opening, joinEmpty_held_append hgap, hheld]
  cases text with
  | nil =>
    rw [joinEmpty, hwritten, joinEmpty]
    simp
  | cons c text =>
    rw [joinEmpty_held_cons (htext c rfl), hwritten]
    by_cases hclose : c = closing
    · subst hclose
      rw [if_pos ⟨rfl, by simp⟩, List.head?_cons, if_pos rfl,
        joinEmpty_nil_cons_of_ne hpair.ne.symm]
      rfl
    · rw [if_neg (fun h => hclose h.1), List.head?_cons,
        if_neg (fun h => hclose (Option.some.inj h))]
      rfl

/-- A line, the blanks after it, and what follows them.  The blanks go if they are a gap. -/
theorem joinEmpty_line {line gap text : List Char} {last : Char} (hlast : line.getLast? = some last)
    (hblank : isBlank last = false) (hgap : ∀ c ∈ gap, isBlank c = true) (hne : gap ≠ [])
    (htext : ∀ c ∈ text.head?, isBlank c = false) :
    joinEmpty opening closing [] (line ++ (gap ++ text)) =
      joinEmpty opening closing [] line ++
        ((if last = opening ∧ text.head? = some closing then [] else gap) ++
          joinEmpty opening closing [] text) := by
  obtain ⟨init, rfl⟩ := List.getLast?_eq_some_iff.1 hlast
  obtain ⟨written, hwritten⟩ := exists_joinEmpty_append hpair hblank [] init
  rw [List.append_assoc, List.singleton_append, hwritten, hwritten []]
  by_cases hopen : last = opening
  · subst hopen
    have hone : joinEmpty last closing [] [last] = [last] := by
      rw [joinEmpty_nil_opening]
      rfl
    rw [joinEmpty_opening_gap hpair hgap hne htext, hone, List.append_assoc]
    simp only [true_and]
    rfl
  · rw [if_neg (fun h => hopen h.1), joinEmpty_nil_cons_of_ne hopen, joinEmpty_nil_cons_of_ne hopen,
      joinEmpty_blanks_append hpair hgap, List.append_assoc]
    rfl

/-! ## Joined lines -/

/-- A joined line ends as the line does. -/
theorem getLast?_joinEmpty {line : List Char} {last : Char} (hlast : line.getLast? = some last)
    (hblank : isBlank last = false) : (joinEmpty opening closing [] line).getLast? = some last := by
  obtain ⟨init, rfl⟩ := List.getLast?_eq_some_iff.1 hlast
  obtain ⟨written, hwritten⟩ := exists_joinEmpty_append hpair hblank [] init
  have hone : joinEmpty opening closing [] [last] = [last] := by
    rw [joinEmpty]
    split <;> rfl
  rw [hwritten [], hone, List.getLast?_concat]

omit hpair in
/-- A joined line starts as the line does. -/
theorem head?_joinEmpty {line : List Char} {first : Char} (hfirst : line.head? = some first)
    (hblank : isBlank first = false) : (joinEmpty opening closing [] line).head? = some first := by
  obtain ⟨rest, rfl⟩ := List.head?_eq_some_iff.1 hfirst
  generalize hjoined : joinEmpty opening closing [] (first :: rest) = joined
  have hthin := thinned_joinEmpty opening closing (first :: rest)
  rw [hjoined] at hthin
  cases hthin with
  | keep _ _ => rfl
  | drop hdrop _ =>
    rw [hdrop] at hblank
    cases hblank

theorem Visible.joinEmpty {line : List Char} (h : Visible line) :
    Visible (Layout.joinEmpty opening closing [] line) := by
  obtain ⟨hnewline, ⟨first, hfirst, hfirstBlank⟩, ⟨last, hlast, hlastBlank⟩⟩ := h
  refine ⟨fun hmem => hnewline ((thinned_joinEmpty opening closing line).mem hmem), ?_, ?_⟩
  · exact ⟨first, head?_joinEmpty hfirst hfirstBlank, hfirstBlank⟩
  · exact ⟨last, getLast?_joinEmpty hpair hlast hlastBlank, hlastBlank⟩

end Joining

/-! ## Joined rows -/

/-- The first character of rows, indentation aside. -/
def start? (rows : List Row) : Option Char := (rows.head?.map Row.line).bind List.head?

/-- A row that takes in the first of the rows after it. -/
def takeIn (r : Row) : List Row → List Row
  | [] => [r]
  | next :: rest => ⟨r.depth, r.line ++ next.line, next.blanks⟩ :: rest

/-- Puts a row before others.  It takes the first of them in if that one closes the bracket at its
end. -/
def joinRow (opening closing : Char) (r : Row) (rows : List Row) : List Row :=
  if r.line.getLast? = some opening ∧ start? rows = some closing then takeIn r rows else r :: rows

/-- The row with the brackets in its line joined. -/
def Row.joined (opening closing : Char) (r : Row) : Row :=
  { r with line := joinEmpty opening closing [] r.line }

@[simp] theorem Row.joined_depth (opening closing : Char) (r : Row) :
    (r.joined opening closing).depth = r.depth := rfl

@[simp] theorem Row.joined_blanks (opening closing : Char) (r : Row) :
    (r.joined opening closing).blanks = r.blanks := rfl

/-- Joins the brackets of one kind in each line, and over the ends of lines. -/
def joinRows (opening closing : Char) : List Row → List Row
  | [] => []
  | r :: rest => joinRow opening closing (r.joined opening closing) (joinRows opening closing rest)

section Rows

variable {opening closing : Char}

theorem exists_takeIn_eq (r : Row) (rows : List Row) :
    ∃ more blanks rest, takeIn r rows = ⟨r.depth, r.line ++ more, blanks⟩ :: rest := by
  cases rows with
  | nil => exact ⟨[], r.blanks, [], by rw [takeIn, List.append_nil]⟩
  | cons next rest => exact ⟨next.line, next.blanks, rest, rfl⟩

/-- A row is still first, at its depth, when others are joined to it. -/
theorem exists_joinRow_eq (opening closing : Char) (r : Row) (rows : List Row) :
    ∃ more blanks rest,
      joinRow opening closing r rows = ⟨r.depth, r.line ++ more, blanks⟩ :: rest := by
  rw [joinRow]
  split
  · exact exists_takeIn_eq r rows
  · exact ⟨[], r.blanks, rows, by rw [List.append_nil]⟩

theorem Visible.ne_nil {line : List Char} (h : Visible line) : line ≠ [] := by
  obtain ⟨c, hc, -⟩ := h.first
  rintro rfl
  cases hc

/-- What a line ends with is seen in what follows it. -/
theorem Visible.getLast?_append {other : List Char} (h : Visible other) (line : List Char) :
    (line ++ other).getLast? = other.getLast? := by
  obtain ⟨last, hlast, -⟩ := h.last
  rw [List.getLast?_append, hlast]
  rfl

theorem Visible.append {line other : List Char} (h : Visible line) (hother : Visible other) :
    Visible (line ++ other) := by
  obtain ⟨first, hfirst, hfirstBlank⟩ := h.first
  obtain ⟨last, hlast, hlastBlank⟩ := hother.last
  refine ⟨?_, ⟨first, ?_, hfirstBlank⟩, ⟨last, ?_, hlastBlank⟩⟩
  · intro hmem
    exact (List.mem_append.1 hmem).elim h.newline hother.newline
  · rw [List.head?_append, hfirst]
    rfl
  · rw [hother.getLast?_append, hlast]

theorem Readable.takeIn {r : Row} {rows : List Row} (h : Readable rows) (hr : Visible r.line) :
    Readable (Layout.takeIn r rows) := by
  cases rows with
  | nil => exact List.forall_mem_singleton.2 hr
  | cons next rest => exact List.forall_mem_cons.2 ⟨hr.append (h next List.mem_cons_self), h.tail⟩

theorem Readable.joinRow {r : Row} {rows : List Row} (h : Readable rows) (hr : Visible r.line) :
    Readable (Layout.joinRow opening closing r rows) := by
  rw [Layout.joinRow]
  split
  · exact h.takeIn hr
  · exact List.forall_mem_cons.2 ⟨hr, h⟩

/-- The first of the joined rows is the first row, with the same indentation and the same character
at its start. -/
theorem exists_joinRows_cons (opening closing : Char) {r : Row} (hr : Visible r.line)
    (rest : List Row) :
    ∃ first others, joinRows opening closing (r :: rest) = first :: others ∧ first.depth = r.depth ∧
      first.line.head? = r.line.head? := by
  obtain ⟨c, hfirst, hc⟩ := hr.first
  obtain ⟨more, blanks, others, hjoined⟩ :=
    exists_joinRow_eq opening closing (r.joined opening closing)
    (joinRows opening closing rest)
  refine ⟨_, others, hjoined, rfl, ?_⟩
  rw [List.head?_append, Row.joined, head?_joinEmpty hfirst hc, hfirst]
  rfl

/-- Joining keeps what the rows start with. -/
theorem start?_joinRows (opening closing : Char) {rows : List Row} (h : Readable rows) :
    start? (joinRows opening closing rows) = start? rows := by
  cases rows with
  | nil => rfl
  | cons r rest =>
    obtain ⟨first, others, hjoined, -, hhead⟩ :=
      exists_joinRows_cons opening closing (h r List.mem_cons_self) rest
    rw [hjoined]
    exact hhead

theorem isBlank_newlines (n : Nat) : ∀ c ∈ List.replicate n '\n', isBlank c = true := by
  intro c hc
  rw [(List.mem_replicate.1 hc).2]
  exact isBlank_newline

variable (hpair : IsBracketPair opening closing)
include hpair

theorem Readable.joinRows {rows : List Row} (h : Readable rows) :
    Readable (Layout.joinRows opening closing rows) := by
  induction rows with
  | nil => exact h
  | cons r rest ih => exact (ih h.tail).joinRow ((h r List.mem_cons_self).joinEmpty hpair)

/-- A joined row ends as the row does. -/
theorem getLast?_joined {r : Row} (hr : Visible r.line) :
    (r.joined opening closing).line.getLast? = r.line.getLast? := by
  obtain ⟨last, hlast, hblank⟩ := hr.last
  rw [hlast]
  exact getLast?_joinEmpty hpair hlast hblank

section Texts

variable {indentUnit : List Char} (hunit : IsIndentation indentUnit)
include hunit

/-- Indentation before a line is not joined to anything. -/
theorem joinEmpty_indented (depth : Nat) (text : List Char) :
    joinEmpty opening closing [] (repeated indentUnit depth ++ text) =
      repeated indentUnit depth ++ joinEmpty opening closing [] text :=
  joinEmpty_blanks_append hpair (hunit.repeated depth).isBlank text

/-- A row, and what follows its newlines: indentation, and then a text that does not start with a
blank. -/
theorem joinEmpty_row {r : Row} (hr : Visible r.line) (depth : Nat) {text : List Char}
    (htext : ∀ c ∈ text.head?, isBlank c = false) :
    joinEmpty opening closing [] (r.indented indentUnit ++
        (List.replicate (r.blanks + 1) '\n' ++ (repeated indentUnit depth ++ text))) =
      (r.joined opening closing).indented indentUnit ++
        ((if r.line.getLast? = some opening ∧ text.head? = some closing then []
          else List.replicate (r.blanks + 1) '\n' ++ repeated indentUnit depth) ++
            joinEmpty opening closing [] text) := by
  obtain ⟨last, hlast, hblank⟩ := hr.last
  have hgap : ∀ c ∈ List.replicate (r.blanks + 1) '\n' ++ repeated indentUnit depth,
      isBlank c = true :=
    List.forall_mem_append.2 ⟨isBlank_newlines _, (hunit.repeated depth).isBlank⟩
  rw [Row.indented, List.append_assoc, joinEmpty_indented hpair hunit,
    ← List.append_assoc (List.replicate _ _), joinEmpty_line hpair hlast hblank hgap (by simp)
      htext, hlast, ← List.append_assoc (repeated _ _)]
  simp only [Option.some.injEq]
  rfl

/-- Joining brackets in the text of rows joins the rows. -/
theorem joinEmpty_rows {rows : List Row} (hrows : Readable rows) :
    joinEmpty opening closing [] (rowsText indentUnit rows) =
      rowsText indentUnit (joinRows opening closing rows) := by
  induction rows with
  | nil => rfl
  | cons r rest ih =>
    have hr := hrows r List.mem_cons_self
    rw [rowsText, joinRows, joinRow, getLast?_joined hpair hr, start?_joinRows _ _ hrows.tail]
    cases rest with
    | nil =>
      have hrow := joinEmpty_row hpair hunit hr 0 (show ∀ c ∈ [].head?, isBlank c = false by simp)
      simpa [rowsText, joinRows, start?, joinEmpty, repeated] using hrow
    | cons next more =>
      have hnext := hrows.tail next List.mem_cons_self
      obtain ⟨c, hfirst, hc⟩ := hnext.first
      obtain ⟨first, others, hjoined, hdepth, hhead⟩ :=
        exists_joinRows_cons opening closing hnext more
      -- The indentation of the next row is parted from its line, in the text and in the joined
      -- text.
      obtain ⟨body, hbody, hstart⟩ : ∃ body, rowsText indentUnit (next :: more) =
          repeated indentUnit next.depth ++ body ∧ body.head? = some c := by
        refine ⟨next.line ++
          (List.replicate (next.blanks + 1) '\n' ++ rowsText indentUnit more), ?_, ?_⟩
        · rw [rowsText, Row.indented, List.append_assoc]
        · rw [List.head?_append, hfirst]
          rfl
      have hrest : joinEmpty opening closing [] body =
          first.line ++ (List.replicate (first.blanks + 1) '\n' ++ rowsText indentUnit others) := by
        have hmore := ih hrows.tail
        rw [hbody, joinEmpty_indented hpair hunit, hjoined, rowsText, Row.indented, hdepth,
          List.append_assoc] at hmore
        exact List.append_cancel_left hmore
      have hbodyBlank : ∀ d ∈ body.head?, isBlank d = false := by
        intro d hd
        rw [hstart] at hd
        exact Option.some.inj hd ▸ hc
      have hnextStart : start? (next :: more) = body.head? := hfirst.trans hstart.symm
      rw [hbody, joinEmpty_row hpair hunit hr next.depth hbodyBlank, hrest, hjoined, hnextStart]
      by_cases hboth : r.line.getLast? = some opening ∧ body.head? = some closing
      · rw [if_pos hboth, if_pos hboth, takeIn, rowsText, Row.indented, Row.indented]
        simp only [List.nil_append, List.append_assoc]
      · rw [if_neg hboth, if_neg hboth, rowsText, rowsText, Row.indented, Row.indented, hdepth]
        simp only [List.append_assoc, Row.joined_blanks]

end Texts

/-! ## What the ends of lines tell -/

/-- The relation between rows depends on the ends of their lines and the blank lines between them
only. -/
def DependsOnEnds (R : Row → Row → Prop) : Prop :=
  ∀ {r r' next next' : Row}, r.line.getLast? = r'.line.getLast? → r.blanks = r'.blanks →
    next.line.head? = next'.line.head? → R r next → R r' next'

omit hpair in
/-- A row that has taken in another one goes on as that one does. -/
theorem isChain_takeIn_iff {R : Row → Row → Prop} (hends : DependsOnEnds R) {r : Row}
    {rows : List Row} (hrows : Readable rows) (hne : rows ≠ []) :
    (takeIn r rows).IsChain R ↔ rows.IsChain R := by
  obtain ⟨next, rest, rfl⟩ := List.exists_cons_of_ne_nil hne
  have hlast := (hrows next List.mem_cons_self).getLast?_append r.line
  rw [takeIn, List.isChain_cons, List.isChain_cons]
  refine and_congr_left fun _ => forall_congr' fun other => imp_congr_right fun _ => ?_
  exact ⟨hends hlast rfl rfl, hends hlast.symm rfl rfl⟩

/-- Such a relation holds along the joined rows exactly if it holds along the rows, provided that it
does not tell apart the rows that are joined. -/
theorem isChain_joinRows_iff {R : Row → Row → Prop} (hends : DependsOnEnds R)
    (hjoined : ∀ r next : Row, r.line.getLast? = some opening → next.line.head? = some closing →
      R r next)
    {rows : List Row} (hrows : Readable rows) :
    (joinRows opening closing rows).IsChain R ↔ rows.IsChain R := by
  induction rows with
  | nil => exact Iff.rfl
  | cons r rest ih =>
    have ih := ih hrows.tail
    have hr := getLast?_joined hpair (hrows r List.mem_cons_self)
    cases rest with
    | nil =>
      have hsingle : joinRows opening closing [r] = [r.joined opening closing] := by
        simp [joinRows, joinRow, start?]
      rw [hsingle]
      exact iff_of_true (.singleton _) (.singleton _)
    | cons next more =>
      obtain ⟨first, others, hfirst, -, hhead⟩ :=
        exists_joinRows_cons opening closing (hrows.tail next List.mem_cons_self) more
      have hreadable := hrows.tail.joinRows hpair
      rw [joinRows, hfirst, List.isChain_cons_cons, ← ih, hfirst, joinRow, hr]
      rw [hfirst] at hreadable
      split
      · next hboth =>
        rw [isChain_takeIn_iff hends hreadable (List.cons_ne_nil first others)]
        exact (and_iff_right (hjoined r next hboth.1 (hhead.symm.trans hboth.2))).symm
      · rw [List.isChain_cons_cons]
        exact and_congr_left fun _ => ⟨hends hr rfl hhead, hends hr.symm rfl hhead.symm⟩

end Rows

/-! ## Pages that are cleaned up -/

/-- Joins the brackets of all kinds. -/
def joinAll (rows : List Row) : List Row :=
  joinRows '[' ']' (joinRows '(' ')' (joinRows '\x7b' '\x7d' rows))

theorem Readable.joinAll {rows : List Row} (h : Readable rows) : Readable (Layout.joinAll rows) :=
  ((h.joinRows isBracketPair_curly).joinRows isBracketPair_round).joinRows isBracketPair_square

theorem start?_joinAll {rows : List Row} (h : Readable rows) :
    start? (joinAll rows) = start? rows := by
  have hcurly := h.joinRows isBracketPair_curly
  have hround := hcurly.joinRows isBracketPair_round
  rw [joinAll, start?_joinRows _ _ hround, start?_joinRows _ _ hcurly, start?_joinRows _ _ h]

/-- The page once its brackets are joined. -/
def Page.joined (page : Page) : Page := ⟨page.lead, joinAll page.rows⟩

theorem Readable.joined {page : Page} (h : Readable page.rows) : Readable page.joined.rows :=
  h.joinAll

theorem Page.StartsOpen.joined {page : Page} (h : page.StartsOpen) (hrows : Readable page.rows) :
    page.joined.StartsOpen := by
  show start? (joinAll page.rows) ≠ some '\x7d'
  rw [start?_joinAll hrows]
  exact h

section Pages

variable {indentUnit : List Char} (hunit : IsIndentation indentUnit)
include hunit

/-- What the clean-ups of brackets make of a page. -/
theorem collapse_text {page : Page} (hrows : Readable page.rows) :
    collapse (page.text indentUnit) = page.joined.text indentUnit := by
  have hcurly := hrows.joinRows isBracketPair_curly
  have hround := hcurly.joinRows isBracketPair_round
  have hlead {opening closing : Char} (hpair : IsBracketPair opening closing) (text : List Char) :=
    joinEmpty_blanks_append hpair (isBlank_newlines page.lead) text
  rw [collapse, Page.text, hlead isBracketPair_curly,
    joinEmpty_rows isBracketPair_curly hunit hrows, hlead isBracketPair_round,
    joinEmpty_rows isBracketPair_round hunit hcurly, hlead isBracketPair_square,
    joinEmpty_rows isBracketPair_square hunit hround]
  rfl

/-- What all clean-ups make of a page. -/
theorem cleanUp_text {page : Page} (hrows : Readable page.rows) (hstart : page.StartsOpen) :
    cleanUp (page.text indentUnit) = page.joined.clean.text indentUnit := by
  rw [cleanUp_eq, collapse_text hunit hrows,
    cleanLines_text hunit hrows.joined (hstart.joined hrows)]

end Pages

/-! ## Lines of a page -/

/-- The line of a row and the empty lines after it. -/
def Row.lines (indentUnit : List Char) (r : Row) : List (List Char) :=
  r.indented indentUnit :: List.replicate r.blanks []

/-- The lines of a page. -/
def Page.lines (indentUnit : List Char) (page : Page) : List (List Char) :=
  List.replicate page.lead [] ++ page.rows.flatMap (Row.lines indentUnit)

theorem splitLines_newlines_append (n : Nat) (text : List Char) :
    splitLines (List.replicate n '\n' ++ text) = List.replicate n [] ++ splitLines text := by
  induction n with
  | zero => rfl
  | succ n ih =>
    have hsplit := splitLines_append_cons [] (List.replicate n '\n' ++ text)
    rw [List.replicate_succ, List.cons_append, ← List.nil_append ('\n' :: _), hsplit, ih]
    rfl

/-- The text of a page ends with a newline, so after its lines comes an empty piece. -/
theorem splitLines_text {indentUnit : List Char} (hunit : IsIndentation indentUnit) {page : Page}
    (hrows : Readable page.rows) :
    splitLines (page.text indentUnit) = page.lines indentUnit ++ [[]] := by
  have hrowsText : ∀ rows, Readable rows → splitLines (rowsText indentUnit rows) =
      rows.flatMap (Row.lines indentUnit) ++ [[]] := by
    intro rows hrows
    induction rows with
    | nil => rfl
    | cons r rest ih =>
      have hnewline := newline_not_mem_indented hunit (hrows r List.mem_cons_self)
      rw [rowsText, List.replicate_succ, List.cons_append, splitLines_append_cons,
        splitLines_of_not_mem hnewline, splitLines_newlines_append, ih hrows.tail,
        List.flatMap_cons, Row.lines]
      simp only [List.cons_append, List.nil_append, List.append_assoc]
  rw [Page.text, splitLines_newlines_append, hrowsText page.rows hrows, Page.lines,
    List.append_assoc]

/-! ## Pages of raw code -/

theorem readable_of_placeLines {n : Nat} {stack final : Stack} {lines : List (List Char)}
    {placed : List Placed} (hlines : ∀ raw ∈ lines, '\n' ∉ raw)
    (h : placeLines n stack lines = .ok (placed, final)) : Readable (Page.of placed).rows := by
  induction lines generalizing n stack placed with
  | nil =>
    cases h
    exact List.forall_mem_nil _
  | cons raw rest ih =>
    obtain ⟨one, after, others, hone, hothers, rfl⟩ := placeLines_cons_eq_ok.1 h
    obtain ⟨hraw, hrest⟩ := List.forall_mem_cons.1 hlines
    have hmore := ih hrest hothers
    rcases place_cases hone with ⟨-, rfl, -⟩ | ⟨first, tail, inner, hline, -, rfl, -⟩
    · exact hmore
    · refine List.forall_mem_cons.2 ⟨visible_trim hraw ?_, hmore⟩
      rw [hline]
      exact List.cons_ne_nil first tail

/-- The page of raw code: no line of it has a newline. -/
theorem readable_of_splitLines {n : Nat} {stack final : Stack} {raw : List Char}
    {placed : List Placed} (h : placeLines n stack (splitLines raw) = .ok (placed, final)) :
    Readable (Page.of placed).rows :=
  readable_of_placeLines (fun _ => newline_not_mem_of_mem_splitLines) h

/-- A placed line is one of a row. -/
theorem Readable.visible_of_mem {placed : List Placed} (h : Readable (Page.of placed).rows)
    {depth : Nat} {text : List Char} (hmem : .line depth text ∈ placed) : Visible text := by
  obtain ⟨before, after, rfl⟩ := List.append_of_mem hmem
  rw [Page.of_append_line] at h
  exact h ⟨depth, text, (Page.of after).lead⟩ (List.mem_append_right _ List.mem_cons_self)

/-- Where nothing is open, the first line that is not blank closes nothing. -/
theorem startsOpen_of_placeLines {n : Nat} {final : Stack} {lines : List (List Char)}
    {placed : List Placed} (h : placeLines n [] lines = .ok (placed, final)) :
    (Page.of placed).StartsOpen := by
  induction lines generalizing n placed with
  | nil =>
    cases h
    exact fun hhead => nomatch hhead
  | cons raw rest ih =>
    obtain ⟨one, after, others, hone, hothers, rfl⟩ := placeLines_cons_eq_ok.1 h
    rcases place_cases hone with ⟨-, rfl, rfl⟩ | ⟨first, tail, inner, hline, henter, rfl, -⟩
    · have hmore := ih hothers
      exact hmore
    · intro hhead
      have hfirst : (trim raw).head? = some '\x7d' := hhead
      rw [hline, List.head?_cons] at hfirst
      obtain rfl := Option.some.inj hfirst
      cases henter

/-- Layout finds a page from the lines of the code, cleans it up, and writes it with the indentation
that is asked for. -/
theorem layout_eq {indentUnit : List Char} (hunit : IsIndentation indentUnit) (raw : List Char) :
    layout indentUnit raw = (placeLines 1 [] (splitLines raw)).map fun placed =>
      ⟨(Page.of placed.1).joined.clean.text indentUnit, placed.2.length⟩ := by
  rw [layout]
  cases hplaced : placeLines 1 [] (splitLines raw) with
  | error e => rfl
  | ok placed =>
    have hrows := readable_of_splitLines hplaced
    have hstart := startsOpen_of_placeLines hplaced
    dsimp only
    rw [indent_eq_text, cleanUp_text hunit hrows hstart]
    rfl

end DartRecords.Layout
