import DartRecords.Proofs.StandingLines

/-!
# Laying out a text that is laid out

A text that has been laid out is laid out to itself, provided that the raw code was `Tidy`.

* The clean-ups of brackets keep the lines where they are, and keep few blank lines beside braces
  (`LaidText.collapse`).
* The clean-ups of empty lines take out blank lines, which do not matter to the others.  The numbers
  of empty lines settle in one go, since a tidy text has no more than one of them beside a brace
  (`cleanLines_append_newline`).
-/

namespace DartRecords.Layout

open Relation (ReflTransGen)
open Text (isBlank trim)

/-! ## Tidy code -/

/-- Two lines of a list that are not blank, with a number of blank lines between them. -/
def Follows (lines : List (List Char)) (line : List Char) (blanks : Nat) (next : List Char) :
    Prop :=
  line ≠ [] ∧ next ≠ [] ∧
    ∃ before after, lines = before ++ line :: (List.replicate blanks [] ++ next :: after)

/-- At most one blank line stands after a line that ends with an opening brace, unless the next line
starts with a closing one, and at most one before a line that starts with a closing brace, unless
the line before it ends with an opening one. -/
structure Spaced (line : List Char) (blanks : Nat) (next : List Char) : Prop where
  opening : line.getLast? = some '\x7b' → next.head? ≠ some '\x7d' → blanks ≤ 1
  closing : next.head? = some '\x7d' → line.getLast? ≠ some '\x7b' → blanks ≤ 1

/-- Code with quiet comments and with few blank lines beside braces. -/
structure Tidy (raw : List Char) : Prop where
  quiet : ∀ line ∈ (splitLines raw).map trim, EndsQuiet line
  spaced : ∀ line blanks next, Follows ((splitLines raw).map trim) line blanks next →
    Spaced line blanks next

/-! ## Blank lines beside braces -/

/-- The rows that follow each other are spaced. -/
def Row.Spaced (r next : Row) : Prop := Layout.Spaced r.line r.blanks next.line

/-- The ends of lines and the numbers of blank lines between them tell whether rows are spaced.  A
row that starts like one row and goes on like another takes the place of both. -/
theorem isChain_spaced_of_ends {before after : List Row} {one two row : Row}
    (hone : (before ++ [one]).IsChain Row.Spaced) (htwo : (two :: after).IsChain Row.Spaced)
    (hhead : row.line.head? = one.line.head?) (hlast : row.line.getLast? = two.line.getLast?)
    (hblanks : row.blanks = two.blanks) : (before ++ row :: after).IsChain Row.Spaced := by
  obtain ⟨hbefore, -, hend⟩ := List.isChain_append.1 hone
  obtain ⟨hstart, hafter⟩ := List.isChain_cons.1 htwo
  refine List.isChain_append.2 ⟨hbefore, List.isChain_cons.2 ⟨fun next hnext => ?_, hafter⟩, ?_⟩
  · obtain ⟨hopening, hclosing⟩ := hstart next hnext
    rw [← hlast, ← hblanks] at hopening hclosing
    exact ⟨hopening, hclosing⟩
  · intro r hr next hnext
    obtain rfl := Option.some.inj hnext
    obtain ⟨hopening, hclosing⟩ := hend r hr one rfl
    rw [← hhead] at hopening hclosing
    exact ⟨hopening, hclosing⟩

/-- A text of lines that stand and are spaced, with the stack after them. -/
def LaidText (indentUnit : List Char) (final : Stack) (text : List Char) : Prop :=
  ∃ placed, placed ≠ [] ∧ indent indentUnit placed = text ∧ Stand [] placed final ∧
    (Page.of placed).rows.IsChain Row.Spaced

section LaidText

variable {indentUnit : List Char} (hunit : IsIndentation indentUnit) {final : Stack}
    {text : List Char}
include hunit

/-- Taking out a gap between two brackets keeps the lines where they are. -/
theorem LaidText.of_joins {m : Marker} {opening closing : Char}
    (hpair : JoinedPair m opening closing) {joined : List Char} (h : LaidText indentUnit final text)
    (hjoins : Joins opening closing text joined) :
    LaidText indentUnit final joined := by
  obtain ⟨placed, -, rfl, hstand, hspaced⟩ := h
  obtain ⟨earlier, depth, init, rest, later, rfl, hshape⟩ := hstand.joins_cases hunit hpair hjoins
  refine ⟨_, by simp, rfl, ?_⟩
  have hhead := head?_append_cons init opening
  have hlast : (init ++ opening :: closing :: rest).getLast? = (closing :: rest).getLast? := by
    rw [List.append_cons, List.getLast?_append_cons]
  rw [Page.of_append_line]
  rcases hshape with ⟨gap, rfl⟩ | ⟨n, depth', rfl⟩
  · -- The gap is in one line.
    rw [Page.of_append_line] at hspaced
    obtain ⟨hbefore, hafter⟩ := List.isChain_split.1 hspaced
    obtain ⟨before, hearlier, hlater⟩ := stand_append_iff.1 hstand
    cases hlater with
    | cons hone hlater =>
      refine ⟨stand_append_iff.2 ⟨before, hearlier, .cons (hone.of_gap hpair) hlater⟩,
        isChain_spaced_of_ends hbefore hafter (hhead _ _) ?_ rfl⟩
      rw [hlast, ← List.cons_append, ← List.append_assoc, List.getLast?_append_cons]
  · -- The gap reaches from one line to another.
    rw [Page.of_append_line, Page.of_blanks_append] at hspaced
    obtain ⟨hbefore, hafter⟩ := List.isChain_split.1 hspaced
    obtain ⟨before, hearlier, hfirst⟩ := stand_append_iff.1 hstand
    cases hfirst with
    | cons hone hgap =>
      obtain ⟨between, hblanks, hsecond⟩ := stand_append_iff.1 hgap
      obtain rfl := hblanks.of_blanks
      cases hsecond with
      | cons htwo hlater =>
        exact ⟨stand_append_iff.2 ⟨before, hearlier, .cons (hone.of_lines hpair htwo) hlater⟩,
          isChain_spaced_of_ends hbefore (List.isChain_cons_cons.1 hafter).2 (hhead _ _) hlast rfl⟩

theorem LaidText.joinEmpty {m : Marker} {opening closing : Char}
    (hpair : JoinedPair m opening closing) (h : LaidText indentUnit final text) :
    LaidText indentUnit final (Layout.joinEmpty opening closing [] text) := by
  have hrun : ∀ joined, ReflTransGen (Joins opening closing) text joined →
      LaidText indentUnit final joined := by
    intro joined hjoins
    induction hjoins with
    | refl => exact h
    | tail _ hjoin ih => exact ih.of_joins hunit hpair hjoin
  exact hrun _ (joins_joinEmpty opening closing text)

/-- The clean-ups of brackets keep the lines where they are. -/
theorem LaidText.collapse (h : LaidText indentUnit final text) :
    LaidText indentUnit final (Layout.collapse text) :=
  ((h.joinEmpty hunit .brace).joinEmpty hunit .paren).joinEmpty hunit .bracket

end LaidText

/-- Where an opening brace and a closing one enclose more than blanks, spaced rows are tight. -/
theorem isChain_tight {indentUnit : List Char} (hunit : IsIndentation indentUnit) {rows : List Row}
    (hspaced : rows.IsChain Row.Spaced)
    (hhollow : ¬Hollow '\x7b' '\x7d' (rowsText indentUnit rows)) :
    rows.IsChain Row.Tight := by
  induction hspaced with
  | nil => exact .nil
  | singleton r => exact .singleton r
  | @cons_cons r next rest hr _ ih =>
    have htext : rowsText indentUnit (r :: next :: rest) = r.indented indentUnit ++
      (List.replicate (r.blanks + 1) '\n' ++ rowsText indentUnit (next :: rest)) := rfl
    refine .cons_cons ?_ (ih fun hmore => hhollow (hmore.of_part ?_))
    · intro hbrace
      by_cases hopening : r.line.getLast? = some '\x7b'
      · by_cases hclosing : next.line.head? = some '\x7d'
        · -- The two braces enclose blanks only.
          obtain ⟨init, hinit⟩ := List.getLast?_eq_some_iff.1 hopening
          obtain ⟨tail, htail⟩ := List.head?_eq_some_iff.1 hclosing
          refine (hhollow ⟨List.replicate (r.blanks + 1) '\n' ++ repeated indentUnit next.depth,
            by simp, ?_, repeated indentUnit r.depth ++ init,
            tail ++ (List.replicate (next.blanks + 1) '\n' ++ rowsText indentUnit rest), ?_⟩).elim
          · intro c hc
            rcases List.mem_append.1 hc with hc | hc
            · rw [(List.mem_replicate.1 hc).2]
              exact isBlank_newline
            · exact (hunit.repeated next.depth).isBlank c hc
          · simp [rowsText, Row.indented, hinit, htail]
        · exact hr.opening hopening hclosing
      · exact hr.closing (hbrace.resolve_left hopening) hopening
    · exact ⟨r.indented indentUnit ++ List.replicate (r.blanks + 1) '\n', [], by simp [htext]⟩

/-! ## From tidy code to spaced rows -/

/-- The trimmed line that has been placed. -/
def Placed.source : Placed → List Char
  | .blank => []
  | .line _ text => text

theorem map_source_of_placeLines {n : Nat} {stack final : Stack} {lines : List (List Char)}
    {placed : List Placed} (h : placeLines n stack lines = .ok (placed, final)) :
    placed.map Placed.source = lines.map trim := by
  induction lines generalizing n stack placed with
  | nil =>
    cases h
    rfl
  | cons raw rest ih =>
    obtain ⟨one, after, others, hone, hothers, rfl⟩ := placeLines_cons_eq_ok.1 h
    have hsource : one.source = trim raw := by
      rcases place_cases hone with ⟨hnil, rfl, -⟩ | ⟨first, rest, inner, -, -, rfl, -⟩
      · exact hnil.symm
      · rfl
    rw [List.map_cons, List.map_cons, hsource, ih hothers]

theorem exists_line_of_source {one : Placed} {line : List Char} (h : one.source = line)
    (hne : line ≠ []) :
    ∃ depth, one = .line depth line := by
  cases one with
  | blank => exact absurd h.symm hne
  | line depth text =>
    obtain rfl : text = line := h
    exact ⟨depth, rfl⟩

/-- A row that follows some others stands for a line and the blank lines after it. -/
theorem exists_of_rows_eq {placed : List Placed} {before rest : List Row} {r : Row}
    (h : (Page.of placed).rows = before ++ r :: rest) :
    ∃ earlier later, placed = earlier ++ .line r.depth r.line :: later ∧
      Page.of later = ⟨r.blanks, rest⟩ := by
  induction placed generalizing before with
  | nil => cases before <;> cases h
  | cons one placed ih =>
    cases one with
    | blank =>
      obtain ⟨earlier, later, rfl, hlater⟩ := ih h
      exact ⟨.blank :: earlier, later, rfl, hlater⟩
    | line depth text =>
      cases before with
      | nil =>
        cases h
        exact ⟨[], placed, rfl, rfl⟩
      | cons first before =>
        obtain ⟨earlier, later, rfl, hlater⟩ := ih (List.cons.inj h).2
        exact ⟨.line depth text :: earlier, later, rfl, hlater⟩

/-- The first row comes after the blank lines at the start. -/
theorem exists_of_page_eq {placed : List Placed} {lead : Nat} {r : Row} {rest : List Row}
    (h : Page.of placed = ⟨lead, r :: rest⟩) :
    ∃ later, placed = List.replicate lead .blank ++ .line r.depth r.line :: later := by
  induction placed generalizing lead with
  | nil => cases h
  | cons one placed ih =>
    cases one with
    | blank =>
      obtain ⟨hlead, hrows⟩ := Page.mk.inj h
      obtain ⟨later, hlater⟩ := @ih (Page.of placed).lead (by rw [← hrows])
      exact ⟨later, by rw [← hlead, List.replicate_succ, List.cons_append, ← hlater]⟩
    | line depth text =>
      cases h
      exact ⟨placed, rfl⟩

/-- The first line that is not blank comes after the blank lines at the start. -/
theorem exists_of_source_eq {placed : List Placed}
    (hplaced : ∀ depth text, .line depth text ∈ placed → text ≠ []) {blanks : Nat}
    {next : List Char} {after : List (List Char)} (hnext : next ≠ [])
    (h : placed.map Placed.source = List.replicate blanks [] ++ next :: after) :
    ∃ depth later, placed = List.replicate blanks .blank ++ .line depth next :: later := by
  obtain ⟨gap, _, rfl, hgap, hmore⟩ := List.map_eq_append_iff.1 h
  obtain ⟨one, later, rfl, hone, -⟩ := List.map_eq_cons_iff.1 hmore
  obtain ⟨depth, rfl⟩ := exists_line_of_source hone hnext
  refine ⟨depth, later, congrArg (· ++ _) ?_⟩
  obtain ⟨hlength, hnil⟩ := List.eq_replicate_iff.1 hgap
  rw [List.length_map] at hlength
  refine List.eq_replicate_iff.2 ⟨hlength, fun p hp => ?_⟩
  cases p with
  | blank => rfl
  | line d text =>
    exact absurd (hnil _ (List.mem_map_of_mem hp)) (hplaced d text (List.mem_append_left _ hp))

/-- Rows are spaced just if the lines are that they stand for. -/
theorem isChain_spaced_iff {placed : List Placed}
    (hplaced : ∀ depth text, .line depth text ∈ placed → text ≠ []) :
    (Page.of placed).rows.IsChain Row.Spaced ↔
      ∀ line blanks next, Follows (placed.map Placed.source) line blanks next →
        Spaced line blanks next := by
  constructor
  · rintro h line blanks next ⟨hline, hnext, before, after, hlines⟩
    obtain ⟨earlier, _, rfl, -, hfirst⟩ := List.map_eq_append_iff.1 hlines
    obtain ⟨one, rest, rfl, hone, hmore⟩ := List.map_eq_cons_iff.1 hfirst
    obtain ⟨depth, rfl⟩ := exists_line_of_source hone hline
    obtain ⟨depth', later, rfl⟩ := exists_of_source_eq
      (fun d text hmem => hplaced d text (by simp [hmem])) hnext hmore
    rw [Page.of_append_line, Page.of_blanks_append] at h
    have hspaced := (List.isChain_append_cons_cons.1 h).2.1
    rwa [Row.Spaced, Page.of, Nat.zero_add] at hspaced
  · intro h
    refine List.isChain_iff_forall_rel_of_append_cons_cons.2 fun r next before rest hrows => ?_
    obtain ⟨earlier, later, rfl, hlater⟩ := exists_of_rows_eq hrows
    obtain ⟨later, rfl⟩ := exists_of_page_eq hlater
    refine h r.line r.blanks next.line ⟨hplaced r.depth _ (by simp), hplaced next.depth _ (by simp),
      earlier.map Placed.source, later.map Placed.source, ?_⟩
    simp [Placed.source]

/-- The rows of tidy code are spaced once it is placed. -/
theorem LaidText.of_tidy {indentUnit raw : List Char} {placed : List Placed} {final : Stack}
    (hraw : Tidy raw) (h : placeLines 1 [] (splitLines raw) = .ok (placed, final)) :
    LaidText indentUnit final (indent indentUnit placed) := by
  have hlines : ∀ line ∈ splitLines raw, '\n' ∉ line ∧ EndsQuiet (trim line) :=
    fun line hline =>
      ⟨newline_not_mem_of_mem_splitLines hline, hraw.quiet _ (List.mem_map_of_mem hline)⟩
  have hstand := stand_of_placeLines hlines h
  have hsource := map_source_of_placeLines h
  have hnonempty : ∀ depth text, .line depth text ∈ placed → text ≠ [] := by
    rintro depth _ hmem rfl
    obtain ⟨c, hc, -⟩ := (hstand.visible depth _ hmem).first
    cases hc
  refine ⟨placed, ?_, rfl, hstand, (isChain_spaced_iff hnonempty).2 ?_⟩
  · rintro rfl
    exact splitLines_ne_nil raw (List.map_eq_nil_iff.1 hsource.symm)
  · rw [hsource]
    exact hraw.spaced

/-! ## Cleaning up -/

/-- Blank lines do not matter to the others. -/
theorem stand_rows_iff {stack final : Stack} {placed : List Placed} :
    Stand stack ((Page.of placed).rows.map Row.placed) final ↔ Stand stack placed final := by
  induction placed generalizing stack with
  | nil => rfl
  | cons one rest ih =>
    cases one with
    | blank =>
      refine ih.trans ⟨.cons (.blank stack), fun h => ?_⟩
      cases h with
      | cons hone hrest =>
        cases hone
        exact hrest
    | line depth text =>
      constructor
      · intro h
        cases h with
        | cons hone hrest => exact .cons hone (ih.1 hrest)
      · intro h
        cases h with
        | cons hone hrest => exact .cons hone (ih.2 hrest)

theorem exists_placed (page : Page) : ∃ placed, Page.of placed = page := by
  obtain ⟨lead, rows⟩ := page
  induction rows generalizing lead with
  | nil =>
    exact ⟨List.replicate lead .blank ++ [], by rw [Page.of_blanks_append, Page.of, Nat.zero_add]⟩
  | cons r rest ih =>
    obtain ⟨placed, hplaced⟩ := ih r.blanks
    refine ⟨List.replicate lead .blank ++ r.placed :: placed, ?_⟩
    rw [Page.of_blanks_append, Row.placed, Page.of, hplaced, Nat.zero_add]

/-- The first line that is not blank closes nothing. -/
theorem startsOpen_of_stand {placed : List Placed} {final : Stack} (h : Stand [] placed final) :
    (Page.of placed).StartsOpen := by
  have hrows := stand_rows_iff.2 h
  intro hhead
  cases hshape : (Page.of placed).rows with
  | nil =>
    rw [hshape] at hhead
    cases hhead
  | cons r rest =>
    rw [hshape] at hhead hrows
    cases hrows with
    | cons hone _ =>
      obtain ⟨inner, first, last, -, hfirst, -, -, henter, -⟩ := hone.line_cases
      cases hfirst.symm.trans hhead
      cases henter

theorem readable_of_stand {stack final : Stack} {placed : List Placed}
    (h : Stand stack placed final) :
    Readable (Page.of placed).rows := fun r hr =>
  (stand_rows_iff.2 h).visible r.depth r.line (List.mem_map_of_mem hr)

theorem not_hasHollowBrackets_append_newline {text : List Char} (h : ¬HasHollowBrackets text) :
    ¬HasHollowBrackets (text ++ ['\n']) := by
  have hpair : ∀ opening closing : Char, closing ≠ '\n' → Hollow opening closing (text ++ ['\n']) →
      Hollow opening closing text := by
    rintro opening closing hclosing ⟨gap, hne, hgap, hpart⟩
    refine ⟨gap, hne, hgap, (List.infix_concat_iff.1 hpart).resolve_left fun hsuffix => hclosing ?_⟩
    obtain ⟨before, hbefore⟩ := hsuffix
    rw [← List.append_assoc] at hbefore
    exact List.singleton_inj.1 (List.append_inj_right' hbefore rfl)
  intro hhollow
  exact h (hhollow.imp (hpair _ _ (by decide))
    (Or.imp (hpair _ _ (by decide)) (hpair _ _ (by decide))))

/-- Once brackets are joined and empty lines are cleaned up, layout changes nothing any more. -/
theorem LaidText.layout_cleanLines {indentUnit : List Char} (hunit : IsIndentation indentUnit)
    {final : Stack} {text : List Char} (h : LaidText indentUnit final text)
    (hhollow : ¬HasHollowBrackets text) :
    layout indentUnit (cleanLines text) = .ok ⟨cleanLines text, final.length⟩ := by
  obtain ⟨placed, hne, htext, hstand, hspaced⟩ := h
  have hnonempty : text ≠ [] := by
    obtain ⟨one, rest, rfl⟩ := List.exists_cons_of_ne_nil hne
    rw [← htext, indent_cons]
    simp
  rw [indent_eq_text] at htext
  have hreadable := readable_of_stand hstand
  have hopen := startsOpen_of_stand hstand
  have htight : (Page.of placed).rows.IsChain Row.Tight := by
    refine isChain_tight hunit hspaced fun hpart => hhollow (.inl (hpart.of_part ?_))
    rw [← htext]
    exact (List.suffix_append _ _).isInfix
  -- The clean page is the text of lines that stand, too.
  have hclean : cleanLines text = (Page.of placed).clean.text indentUnit := by
    rw [← htext, cleanLines_text hunit hreadable hopen]
  obtain ⟨again, hagain⟩ := exists_placed (Page.of placed).clean
  have hindent : indent indentUnit again = cleanLines text := by rw [indent_eq_text, hagain, hclean]
  have hstands : Stand [] again final := by
    rw [← stand_rows_iff, hagain, Page.clean, map_placed_adjust]
    exact stand_rows_iff.2 hstand
  have hcollapse : Layout.collapse (cleanLines text ++ ['\n']) = cleanLines text ++ ['\n'] :=
    (collapse_eq_self_iff _).2 (not_hasHollowBrackets_append_newline
      ((thinned_cleanLines text).not_hasHollowBrackets hhollow))
  have hlayout := layout_of_stand hunit hstands
  rw [hindent, cleanUp_eq, hcollapse, hclean,
    cleanLines_append_newline hunit hreadable hopen htight (htext ▸ hnonempty), ← hclean] at hlayout
  exact hlayout

/-- If layout returns a text for tidy code, and an indentation of spaces and tabs, then it returns
the same for that text. -/
theorem layout_idempotent {indentUnit raw : List Char} {laid : Laid}
    (hunit : IsIndentation indentUnit) (hraw : Tidy raw) (h : layout indentUnit raw = .ok laid) :
    layout indentUnit laid.text = .ok laid := by
  rw [layout] at h
  split at h
  · cases h
  · next placed final hplaced =>
    cases h
    have hlaid : LaidText indentUnit final (indent indentUnit placed) :=
      LaidText.of_tidy hraw hplaced
    exact (hlaid.collapse hunit).layout_cleanLines hunit (not_hasHollowBrackets_collapse _)

/-! ### Code that is tidy -/

/-- A trimmed line as a placed one. -/
def Placed.ofLine (line : List Char) : Placed := if line = [] then .blank else .line 0 line

theorem source_ofLine (line : List Char) : (Placed.ofLine line).source = line := by
  rw [Placed.ofLine]
  split
  · next hnil => exact hnil.symm
  · rfl

/-- Whether code is tidy can be computed from its rows. -/
theorem tidy_iff (raw : List Char) :
    Tidy raw ↔ (∀ line ∈ (splitLines raw).map trim, EndsQuiet line) ∧
      (Page.of (((splitLines raw).map trim).map Placed.ofLine)).rows.IsChain Row.Spaced := by
  have hlines : ∀ depth text, .line depth text ∈ ((splitLines raw).map trim).map Placed.ofLine →
      text ≠ [] := by
    intro depth text hmem
    obtain ⟨line, -, hline⟩ := List.mem_map.1 hmem
    rw [Placed.ofLine] at hline
    split at hline
    · cases hline
    · next hne =>
      cases hline
      exact hne
  rw [isChain_spaced_iff hlines, List.map_map]
  have hsource : Placed.source ∘ Placed.ofLine = id := funext source_ofLine
  rw [hsource, List.map_id]
  exact ⟨fun h => ⟨h.quiet, h.spaced⟩, fun h => ⟨h.1, h.2⟩⟩

theorem endsQuiet_iff (line : List Char) :
    (!isComment line || line.getLast?.all fun c => c ∉ ['\x7b', '(', '[']) = true ↔
      EndsQuiet line := by
  rw [Bool.or_eq_true, EndsQuiet]
  cases isComment line <;> cases line.getLast? <;> simp

instance (line : List Char) : Decidable (EndsQuiet line) := decidable_of_iff _ (endsQuiet_iff line)

instance (line : List Char) (blanks : Nat) (next : List Char) :
    Decidable (Spaced line blanks next) :=
  decidable_of_iff ((line.getLast? = some '\x7b' → next.head? ≠ some '\x7d' → blanks ≤ 1) ∧
      (next.head? = some '\x7d' → line.getLast? ≠ some '\x7b' → blanks ≤ 1))
    ⟨fun h => ⟨h.1, h.2⟩, fun h => ⟨h.opening, h.closing⟩⟩

instance (r next : Row) : Decidable (r.Spaced next) :=
  inferInstanceAs (Decidable (Layout.Spaced ..))

instance (raw : List Char) : Decidable (Tidy raw) := decidable_of_iff _ (tidy_iff raw).symm

/-- A class with an empty line beside each of its braces, several empty lines, brackets that are
empty over some lines, a comment and a chain that nothing ends. -/
def looseCode : List Char :=
  ("\n\n\nclass A \x7b\n\nf( \t)\n\n\n\n// see ( )\ng(\n\n)\n.h([\n]);\nx =\n"
    ++ "\x7b\n\n\n\x7d\n\n\x7d\n\ny\n.z(\n\n").toList

/-- What layout makes of it. -/
def settledCode : List Char :=
  ("\n\nclass A \x7b\n\tf()\n\n\t// see ()\n\tg()\n\t\t.h([]);\n\tx =\n"
    ++ "\t\t\x7b\x7d\n\x7d\n\ny\n\t.z(\n").toList

theorem looseCode_settles : Tidy looseCode ∧ layout ['\t'] looseCode = .ok ⟨settledCode, 2⟩ ∧
    layout ['\t'] settledCode = .ok ⟨settledCode, 2⟩ := by
  have hraw : Tidy looseCode := by decide
  have hlaid : layout ['\t'] looseCode = .ok ⟨settledCode, 2⟩ := by decide +kernel
  exact ⟨hraw, hlaid, layout_idempotent (by decide) hraw hlaid⟩

end DartRecords.Layout
