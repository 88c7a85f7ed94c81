import DartRecords.Proofs.JoinedRows
import DartRecords.Proofs.Relayout

/-!
# Empty lines beside braces

The clean-ups remove one empty line after an opening brace and one before a closing brace, and only
then all but one of several empty lines in a row.  So two empty lines beside a brace become one, and
not none.

What layout leaves beside braces is found in three steps.  The lines of a clean page are clear of
braces if its rows are (`isChain_lines_iff`).  The rows of the clean page are if the joined rows
were spaced, since a brace costs one empty line (`clear_gapCleaned_iff`).  The joined rows are
spaced just if the rows are that the raw code stands for (`isChain_joinRows_iff`).
-/

namespace DartRecords.Layout

open Text (isBlank trim)

/-! ## Lines that are clear of braces -/

/-- One of two lines is empty and beside a brace: it comes after a line that ends with an opening
brace, or before one that starts with a closing brace, indentation aside. -/
def HugsBrace (line next : List Char) : Prop :=
  (line.getLast? = some '\x7b' ∧ next = []) ∨ (line = [] ∧ (trim next).head? = some '\x7d')

/-- No empty line of a text that ends with a newline is beside a brace. -/
def ClearOfBraces (text : List Char) : Prop :=
  (splitLines text).dropLast.IsChain fun line next => ¬HugsBrace line next

instance (line next : List Char) : Decidable (HugsBrace line next) :=
  inferInstanceAs (Decidable (_ ∨ _))

instance (text : List Char) : Decidable (ClearOfBraces text) :=
  inferInstanceAs (Decidable (List.IsChain _ _))

/-- No empty line between two rows is beside a brace. -/
def Row.Clear (r next : Row) : Prop :=
  r.blanks ≠ 0 → r.line.getLast? ≠ some '\x7b' ∧ next.line.head? ≠ some '\x7d'

theorem not_hugsBrace_empty : ¬HugsBrace [] [] := by
  rintro (⟨h, -⟩ | ⟨-, h⟩) <;> cases h

/-- Of several empty lines only the last one can be beside a brace that comes after them. -/
theorem isChain_empties_append_iff (n : Nat) (lines : List (List Char)) :
    (List.replicate (n + 1) [] ++ lines).IsChain (fun line next => ¬HugsBrace line next) ↔
      (∀ next ∈ lines.head?, ¬HugsBrace [] next) ∧ lines.IsChain fun line next =>
        ¬HugsBrace line next := by
  induction n with
  | zero => exact List.isChain_cons
  | succ n ih =>
    rw [← ih, List.replicate_succ, List.replicate_succ, List.cons_append, List.cons_append,
      List.isChain_cons_cons]
    exact and_iff_right not_hugsBrace_empty

section Lines

variable {indentUnit : List Char} (hunit : IsIndentation indentUnit)
include hunit

omit hunit in
theorem getLast?_indented {r : Row} (hr : Visible r.line) :
    (r.indented indentUnit).getLast? = r.line.getLast? := hr.getLast?_append _

omit hunit in
/-- An empty line after the line of a row is beside a brace just if the line ends with an opening
one. -/
theorem hugsBrace_indented_empty_iff {r : Row} (hr : Visible r.line) :
    HugsBrace (r.indented indentUnit) [] ↔ r.line.getLast? = some '\x7b' := by
  rw [HugsBrace, getLast?_indented hr]
  simp [indented_ne_nil hr]

/-- An empty line before the line of a row is beside a brace just if the line starts with a closing
one. -/
theorem hugsBrace_empty_indented_iff {r : Row} (hr : Visible r.line) :
    HugsBrace [] (r.indented indentUnit) ↔ r.line.head? = some '\x7d' := by
  rw [HugsBrace, Row.indented, trim_indented hunit hr]
  simp

omit hunit in
theorem not_hugsBrace_indented {r next : Row} (hr : Visible r.line) (hnext : Visible next.line) :
    ¬HugsBrace (r.indented indentUnit) (next.indented indentUnit) := by
  rintro (⟨-, hnil⟩ | ⟨hnil, -⟩)
  · exact indented_ne_nil hnext hnil
  · exact indented_ne_nil hr hnil

/-- The lines of rows are clear of braces just if the rows are, provided that no empty line follows
the last one. -/
theorem isChain_lines_iff {rows : List Row} (hrows : Readable rows)
    (hend : ∀ r ∈ rows.getLast?, r.blanks = 0) :
    (rows.flatMap (Row.lines indentUnit)).IsChain (fun line next => ¬HugsBrace line next) ↔
      rows.IsChain Row.Clear := by
  induction rows with
  | nil => exact iff_of_true .nil .nil
  | cons r rest ih =>
    have hr := hrows r List.mem_cons_self
    cases rest with
    | nil =>
      have hzero : r.blanks = 0 := hend r rfl
      rw [List.flatMap_cons, List.flatMap_nil, List.append_nil, Row.lines, hzero]
      exact iff_of_true (.singleton _) (.singleton _)
    | cons next more =>
      have hnext := hrows.tail next List.mem_cons_self
      have ih := ih hrows.tail hend
      have hlines : (next :: more).flatMap (Row.lines indentUnit) = next.indented indentUnit ::
        (List.replicate next.blanks [] ++ more.flatMap (Row.lines indentUnit)) := rfl
      rw [List.flatMap_cons, List.isChain_cons_cons, ← ih, hlines, Row.lines]
      cases hblanks : r.blanks with
      | zero =>
        rw [List.replicate_zero, List.singleton_append, List.isChain_cons_cons]
        refine and_congr_left fun _ => iff_of_true (not_hugsBrace_indented hr hnext) ?_
        exact fun hne => absurd hblanks hne
      | succ n =>
        -- The first of the empty lines is beside the line of the row, the last one beside the next
        -- line.
        have hclear : r.Clear next ↔ ¬HugsBrace (r.indented indentUnit) [] ∧
            ¬HugsBrace [] (next.indented indentUnit) := by
          rw [hugsBrace_indented_empty_iff hr, hugsBrace_empty_indented_iff hunit hnext,
            Row.Clear, hblanks]
          simp
        have hstart := isChain_empties_append_iff n ((next :: more).flatMap (Row.lines indentUnit))
        rw [hlines] at hstart
        rw [List.cons_append, List.isChain_cons, hstart, hclear]
        simp [List.replicate_succ, and_assoc]

/-- The lines of a page that does not start with a closing brace and does not end with an empty
line. -/
theorem clearOfBraces_text_iff {page : Page} (hrows : Readable page.rows) (hstart : page.StartsOpen)
    (hend : ∀ r ∈ page.rows.getLast?, r.blanks = 0) :
    ClearOfBraces (page.text indentUnit) ↔ page.rows.IsChain Row.Clear := by
  rw [ClearOfBraces, splitLines_text hunit hrows, List.dropLast_concat, Page.lines,
    ← isChain_lines_iff hunit hrows hend]
  cases page.lead with
  | zero => rfl
  | succ n =>
    refine (isChain_empties_append_iff n _).trans (and_iff_right fun line hline => ?_)
    cases hshape : page.rows with
    | nil =>
      rw [hshape] at hline
      cases hline
    | cons r rest =>
      rw [hshape] at hline hrows
      obtain rfl := Option.some.inj hline
      rw [hugsBrace_empty_indented_iff hunit (hrows r List.mem_cons_self)]
      rw [Page.StartsOpen, hshape] at hstart
      exact hstart

end Lines

/-! ## Rows that are cleaned up -/

/-- No empty line follows the last row of a clean page. -/
theorem blanks_of_getLast?_clean {rows : List Row} :
    ∀ r ∈ (adjust gapCleaned rows).getLast?, r.blanks = 0 := by
  induction rows with
  | nil => exact fun r hr => nomatch hr
  | cons r rest ih =>
    cases rest with
    | nil =>
      intro last hlast
      obtain rfl := Option.some.inj hlast
      exact gapCleaned_none r.line r.blanks
    | cons next more => exact ih

theorem Page.StartsOpen.clean {page : Page} (h : page.StartsOpen) : page.clean.StartsOpen := by
  rw [Page.StartsOpen, Page.clean, head?_adjust]
  exact h

/-- No two braces with nothing but blank lines between them. -/
def Row.Apart (r next : Row) : Prop :=
  ¬(r.line.getLast? = some '\x7b' ∧ next.line.head? = some '\x7d')

/-- Once the empty lines are cleaned up, none is beside a brace just if there was at most one. -/
theorem clear_gapCleaned_iff {r next : Row} (h : r.Apart next) :
    (gapCleaned r.line r.blanks (some next.line) ≠ 0 →
        r.line.getLast? ≠ some '\x7b' ∧ next.line.head? ≠ some '\x7d') ↔ r.Spaced next := by
  rw [gapCleaned_some_eq]
  by_cases hline : r.line.getLast? = some '\x7b'
  · have hnext : next.line.head? ≠ some '\x7d' := fun hnext => h ⟨hline, hnext⟩
    rw [if_pos hline, if_neg hnext]
    constructor
    · intro hclear
      refine ⟨fun _ _ => ?_, fun hnext' => absurd hnext' hnext⟩
      have hzero : min (r.blanks - 1 - 0) 1 = 0 := not_not.1 fun hne => (hclear hne).1 hline
      omega
    · intro hspaced hne
      have := hspaced.opening hline hnext
      omega
  · by_cases hnext : next.line.head? = some '\x7d'
    · rw [if_neg hline, if_pos hnext]
      constructor
      · intro hclear
        refine ⟨fun hline' => absurd hline' hline, fun _ _ => ?_⟩
        have hzero : min (r.blanks - 0 - 1) 1 = 0 := not_not.1 fun hne => (hclear hne).2 hnext
        omega
      · intro hspaced hne
        have := hspaced.closing hnext hline
        omega
    · refine iff_of_true (fun _ => ⟨hline, hnext⟩) ?_
      exact ⟨fun hline' => absurd hline' hline, fun hnext' => absurd hnext' hnext⟩

/-- The rows of the clean page are clear of braces just if the rows were spaced. -/
theorem isChain_clear_iff {rows : List Row} (hrows : rows.IsChain Row.Apart) :
    (adjust gapCleaned rows).IsChain Row.Clear ↔ rows.IsChain Row.Spaced := by
  induction hrows with
  | nil => exact iff_of_true .nil .nil
  | singleton r => exact iff_of_true (.singleton _) (.singleton _)
  | cons_cons hr _ ih =>
    rw [List.isChain_cons_cons, ← ih, ← clear_gapCleaned_iff hr]
    exact List.isChain_cons_cons

/-! ## Rows that are joined -/

theorem dependsOnEnds_apart : DependsOnEnds Row.Apart := by
  intro r r' next next' hlast _ hhead h hboth
  rw [← hlast, ← hhead] at hboth
  exact h hboth

theorem dependsOnEnds_spaced : DependsOnEnds Row.Spaced := by
  intro r r' next next' hlast hblanks hhead h
  obtain ⟨hopening, hclosing⟩ := h
  rw [hlast, hblanks, hhead] at hopening hclosing
  exact ⟨hopening, hclosing⟩

/-- Rows that are joined to each other may have any number of blank lines between them. -/
theorem JoinedPair.spaced {m : Marker} {opening closing : Char} (h : JoinedPair m opening closing)
    (r next : Row) (hlast : r.line.getLast? = some opening)
    (hhead : next.line.head? = some closing) :
    r.Spaced next := by
  cases h with
  | brace => exact ⟨fun _ hnext => absurd hhead hnext, fun _ hline => absurd hlast hline⟩
  | paren | bracket =>
    refine ⟨fun hline => ?_, fun hnext => ?_⟩
    · exact absurd (hlast.symm.trans hline) (by decide)
    · exact absurd (hhead.symm.trans hnext) (by decide)

/-- Once braces are joined, none are left to join. -/
theorem isChain_apart_joinRows {rows : List Row} (hrows : Readable rows) :
    (joinRows '\x7b' '\x7d' rows).IsChain Row.Apart := by
  induction rows with
  | nil => exact .nil
  | cons r rest ih =>
    have ih := ih hrows.tail
    rw [joinRows, joinRow]
    split
    · next hboth =>
      have hne : joinRows '\x7b' '\x7d' rest ≠ [] := by
        intro hnil
        rw [hnil] at hboth
        cases hboth.2
      exact (isChain_takeIn_iff dependsOnEnds_apart
        (hrows.tail.joinRows isBracketPair_curly) hne).2 ih
    · next hboth =>
      refine List.isChain_cons.2 ⟨fun next hnext hbraces => hboth ⟨hbraces.1, ?_⟩, ih⟩
      rw [start?, hnext]
      exact hbraces.2

section Joined

variable {page : Page} (hrows : Readable page.rows)
include hrows

theorem isChain_apart_joined : page.joined.rows.IsChain Row.Apart := by
  have hcurly := hrows.joinRows isBracketPair_curly
  have hround := hcurly.joinRows isBracketPair_round
  have hother {opening closing : Char} (hopening : opening ≠ '\x7b') (r next : Row)
      (hlast : r.line.getLast? = some opening)
        (_ : next.line.head? = some closing) : r.Apart next := by
    rintro ⟨hbrace, -⟩
    exact hopening (Option.some.inj (hlast.symm.trans hbrace))
  refine (isChain_joinRows_iff isBracketPair_square dependsOnEnds_apart (hother (by decide))
    hround).2 ?_
  refine (isChain_joinRows_iff isBracketPair_round dependsOnEnds_apart (hother (by decide))
    hcurly).2 ?_
  exact isChain_apart_joinRows hrows

/-- Joining brackets changes nothing in how the rows are spaced. -/
theorem isChain_spaced_joined_iff :
    page.joined.rows.IsChain Row.Spaced ↔ page.rows.IsChain Row.Spaced := by
  have hcurly := hrows.joinRows isBracketPair_curly
  have hround := hcurly.joinRows isBracketPair_round
  exact (isChain_joinRows_iff isBracketPair_square dependsOnEnds_spaced JoinedPair.bracket.spaced
    hround).trans <|
    (isChain_joinRows_iff isBracketPair_round dependsOnEnds_spaced JoinedPair.paren.spaced
      hcurly).trans
      (isChain_joinRows_iff isBracketPair_curly dependsOnEnds_spaced JoinedPair.brace.spaced hrows)

end Joined

/-- If layout returns a text, for an indentation of spaces and tabs, then no empty line of it is
beside a brace, exactly if the raw code has at most one blank line after each line that ends with an
opening brace, unless the next line starts with a closing one, and at most one before each line that
starts with a closing brace, unless the line before it ends with an opening one. -/
theorem no_blank_hugs_brace_iff {indentUnit raw : List Char} {laid : Laid}
    (hunit : IsIndentation indentUnit) (h : layout indentUnit raw = .ok laid) :
    ClearOfBraces laid.text ↔
      ∀ line blanks next, Follows ((splitLines raw).map trim) line blanks next →
        Spaced line blanks next := by
  rw [layout_eq hunit] at h
  cases hplaced : placeLines 1 [] (splitLines raw) with
  | error e =>
    rw [hplaced] at h
    cases h
  | ok placed =>
    rw [hplaced] at h
    cases h
    have hrows := readable_of_splitLines hplaced
    have hplacedLines : ∀ depth text, .line depth text ∈ placed.1 → text ≠ [] :=
      fun _ _ hmem => (hrows.visible_of_mem hmem).ne_nil
    have hstart := ((startsOpen_of_placeLines hplaced).joined hrows).clean
    have hclear :=
      clearOfBraces_text_iff hunit (hrows.joined.adjust gapCleaned) hstart blanks_of_getLast?_clean
    rw [← map_source_of_placeLines hplaced]
    calc ClearOfBraces ((Page.of placed.1).joined.clean.text indentUnit)
        ↔ (adjust gapCleaned (Page.of placed.1).joined.rows).IsChain Row.Clear := hclear
      _ ↔ (Page.of placed.1).joined.rows.IsChain Row.Spaced :=
        isChain_clear_iff (isChain_apart_joined hrows)
      _ ↔ (Page.of placed.1).rows.IsChain Row.Spaced := isChain_spaced_joined_iff hrows
      _ ↔ _ := isChain_spaced_iff hplacedLines

/-- A class with one blank line beside each brace, two elsewhere, and some between braces that
enclose nothing else. -/
def roomyCode : List Char :=
  "class A \x7b\n\nint a;\n\n\nf() \x7b\n\n\n\x7d\n\n\x7d\n".toList

theorem roomyCode_clear_of_braces :
    layout ['\t'] roomyCode = .ok ⟨"class A \x7b\n\tint a;\n\n\tf() \x7b\x7d\n\x7d\n".toList, 0⟩ ∧
    ClearOfBraces "class A \x7b\n\tint a;\n\n\tf() \x7b\x7d\n\x7d\n".toList ∧
    ∀ line blanks next, Follows ((splitLines roomyCode).map trim) line blanks next →
      Spaced line blanks next := by
  have hlaid : layout ['\t'] roomyCode =
      .ok ⟨"class A \x7b\n\tint a;\n\n\tf() \x7b\x7d\n\x7d\n".toList, 0⟩ := by decide +kernel
  have hclear : ClearOfBraces "class A \x7b\n\tint a;\n\n\tf() \x7b\x7d\n\x7d\n".toList := by decide
  exact ⟨hlaid, hclear, (no_blank_hugs_brace_iff (by decide) hlaid).1 hclear⟩

/-- Of two blank lines after an opening brace one is left. -/
theorem blank_hugs_opening_brace :
    layout [' ', ' '] "a \x7b\n\n\nb;\n\x7d\n".toList = .ok ⟨"a \x7b\n\n  b;\n\x7d\n".toList, 0⟩ ∧
    ¬ClearOfBraces "a \x7b\n\n  b;\n\x7d\n".toList := by
  decide +kernel

end DartRecords.Layout
