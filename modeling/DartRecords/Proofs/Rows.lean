import DartRecords.Layout.Basic
import DartRecords.Proofs.CleanUp
import Mathlib.Data.List.Chain

/-!
# Rows of an indented text

An indented text is a page: some empty lines, and then rows, each of which is a line that is not
blank with the number of empty lines after it.  The clean-ups of empty lines change these numbers
and nothing else.  Each of them works on every row by itself, and looks at the line of the row and
at the next line (`adjust`), so that what all of them do to a page is known (`cleanLines_text`).

A page is `Tight` if at most one empty line stands after an opening brace or before a closing brace.
Once such a page is clean, it stays as it is when one more empty line is added at its end
(`cleanLines_append_newline`).
-/

namespace DartRecords.Layout

open Text (isBlank)

/-! ## Pages -/

/-- A line that is not blank, at a depth, with the number of empty lines after it. -/
structure Row where
  depth : Nat
  line : List Char
  blanks : Nat
  deriving DecidableEq, Repr

/-- The line of a row as a placed one. -/
def Row.placed (r : Row) : Placed := .line r.depth r.line

/-- The line of a row with its indentation. -/
def Row.indented (indentUnit : List Char) (r : Row) : List Char :=
  repeated indentUnit r.depth ++ r.line

/-- The text of rows, with the newlines of their lines. -/
def rowsText (indentUnit : List Char) : List Row → List Char
  | [] => []
  | r :: rest =>
    r.indented indentUnit ++ (List.replicate (r.blanks + 1) '\n' ++ rowsText indentUnit rest)

/-- Rows, with the number of empty lines before them. -/
structure Page where
  lead : Nat
  rows : List Row
  deriving DecidableEq, Repr

def Page.text (indentUnit : List Char) (page : Page) : List Char :=
  List.replicate page.lead '\n' ++ rowsText indentUnit page.rows

/-- The page of placed lines. -/
def Page.of : List Placed → Page
  | [] => ⟨0, []⟩
  | .blank :: rest => ⟨(Page.of rest).lead + 1, (Page.of rest).rows⟩
  | .line depth text :: rest => ⟨0, ⟨depth, text, (Page.of rest).lead⟩ :: (Page.of rest).rows⟩

theorem indent_eq_text (indentUnit : List Char) (placed : List Placed) :
    indent indentUnit placed = (Page.of placed).text indentUnit := by
  induction placed with
  | nil => rfl
  | cons one rest ih =>
    have hcons : indent indentUnit (one :: rest) =
        one.render indentUnit ++ indent indentUnit rest := rfl
    rw [hcons, ih]
    cases one with
    | blank => rfl
    | line depth text =>
      simp [Page.of, Page.text, rowsText, Row.indented, Placed.render, List.replicate_succ]

/-- A line cuts a page in two. -/
theorem Page.of_append_line (before after : List Placed) (depth : Nat) (text : List Char) :
    Page.of (before ++ .line depth text :: after) =
      ⟨(Page.of before).lead,
        (Page.of before).rows ++ ⟨depth, text, (Page.of after).lead⟩ :: (Page.of after).rows⟩ := by
  induction before with
  | nil => rfl
  | cons one rest ih =>
    cases one with
    | blank => rw [List.cons_append, Page.of, ih, Page.of]
    | line d t => rw [List.cons_append, Page.of, ih, Page.of, List.cons_append]

/-- Empty lines before others. -/
theorem Page.of_blanks_append (n : Nat) (placed : List Placed) :
    Page.of (List.replicate n .blank ++ placed) =
      ⟨(Page.of placed).lead + n, (Page.of placed).rows⟩ := by
  induction n with
  | zero => rfl
  | succ n ih => rw [List.replicate_succ, List.cons_append, Page.of, ih, Nat.add_assoc]

/-- A line that is not blank, as it is placed. -/
structure Visible (line : List Char) : Prop where
  newline : '\n' ∉ line
  first : ∃ c, line.head? = some c ∧ isBlank c = false
  last : ∃ c, line.getLast? = some c ∧ isBlank c = false

theorem ne_newline {c : Char} (hc : isBlank c = false) : c ≠ '\n' := by
  rintro rfl
  exact absurd hc (by decide)

theorem not_indentation {c : Char} (hc : isBlank c = false) : (c = ' ' || c = '\t') = false := by
  rw [Bool.or_eq_false_iff, decide_eq_false_iff_not, decide_eq_false_iff_not]
  constructor <;> rintro rfl <;> exact absurd hc (by decide)

/-- The indentation of one level is made of spaces and tabs. -/
def IsIndentation (indentUnit : List Char) : Prop := ∀ c ∈ indentUnit, c = ' ' ∨ c = '\t'

theorem isIndentation_iff (indentUnit : List Char) :
    (indentUnit.all fun c => c = ' ' || c = '\t') = true ↔ IsIndentation indentUnit := by
  rw [List.all_eq_true]
  simp only [Bool.or_eq_true, decide_eq_true_eq]
  exact Iff.rfl

instance (indentUnit : List Char) : Decidable (IsIndentation indentUnit) :=
  decidable_of_iff _ (isIndentation_iff indentUnit)

theorem IsIndentation.repeated {indentUnit : List Char} (h : IsIndentation indentUnit)
    (depth : Nat) :
    IsIndentation (Layout.repeated indentUnit depth) := by
  induction depth with
  | zero => exact List.forall_mem_nil _
  | succ depth ih => exact List.forall_mem_append.2 ⟨h, ih⟩

theorem IsIndentation.isBlank {indentUnit : List Char} (h : IsIndentation indentUnit) :
    ∀ c ∈ indentUnit, Text.isBlank c = true := by
  intro c hc
  rcases h c hc with rfl | rfl <;> decide

/-! ## One clean-up at a time -/

/-- Changes the numbers of empty lines.  A new number is found from the line before it, the old
number and the next line, if there is one. -/
def adjust (f : List Char → Nat → Option (List Char) → Nat) : List Row → List Row
  | [] => []
  | r :: rest => { r with blanks := f r.line r.blanks (rest.head?.map Row.line) } :: adjust f rest

section Adjust

variable {f g : List Char → Nat → Option (List Char) → Nat}

theorem adjust_cons (f : List Char → Nat → Option (List Char) → Nat) (r : Row) (rest : List Row) :
    adjust f (r :: rest) =
      { r with blanks := f r.line r.blanks (rest.head?.map Row.line) } :: adjust f rest := rfl

theorem head?_adjust (f : List Char → Nat → Option (List Char) → Nat) (rows : List Row) :
    (adjust f rows).head?.map Row.line = rows.head?.map Row.line := by
  cases rows <;> rfl

theorem adjust_eq_nil_iff {rows : List Row} : adjust f rows = [] ↔ rows = [] := by
  cases rows with
  | nil => exact Iff.rfl
  | cons r rest => simp [adjust_cons]

/-- The lines stay where they are. -/
theorem map_placed_adjust (f : List Char → Nat → Option (List Char) → Nat) (rows : List Row) :
    (adjust f rows).map Row.placed = rows.map Row.placed := by
  induction rows with
  | nil => rfl
  | cons r rest ih => rw [adjust_cons, List.map_cons, ih, List.map_cons]; rfl

theorem adjust_adjust (rows : List Row) :
    adjust g (adjust f rows) =
      adjust (fun line blanks next => g line (f line blanks next) next) rows := by
  induction rows with
  | nil => rfl
  | cons r rest ih => rw [adjust_cons, adjust_cons, adjust_cons, head?_adjust, ih]

/-- Two ways to change the numbers agree if they do so on rows that follow each other, and at the
end. -/
theorem adjust_congr {R : Row → Row → Prop} {rows : List Row} (hrows : rows.IsChain R)
    (hpair : ∀ r next, R r next → f r.line r.blanks (some next.line) =
      g r.line r.blanks (some next.line))
    (hlast : ∀ r : Row, f r.line r.blanks none = g r.line r.blanks none) :
    adjust f rows = adjust g rows := by
  induction hrows with
  | nil => rfl
  | singleton r =>
    rw [adjust_cons, adjust_cons]
    exact congrArg (fun n => [{ r with blanks := n }]) (hlast r)
  | @cons_cons r next rest hr _ ih =>
    rw [adjust_cons, ih, adjust_cons]
    exact congrArg (fun n => { r with blanks := n } :: adjust g (next :: rest)) (hpair r next hr)

end Adjust

/-- The lines of the rows are not blank. -/
def Readable (rows : List Row) : Prop := ∀ r ∈ rows, Visible r.line

theorem Readable.tail {r : Row} {rows : List Row} (h : Readable (r :: rows)) : Readable rows :=
  fun other hother => h other (List.mem_cons_of_mem _ hother)

section CleanUps

variable {indentUnit : List Char} (hunit : IsIndentation indentUnit)
include hunit

theorem newline_not_mem_indented {r : Row} (hline : Visible r.line) :
    '\n' ∉ r.indented indentUnit := by
  intro hmem
  rcases List.mem_append.1 hmem with hmem | hmem
  · rcases hunit.repeated r.depth '\n' hmem with h | h <;> exact absurd h (by decide)
  · exact hline.newline hmem

omit hunit in
theorem indented_ne_nil {r : Row} (hline : Visible r.line) : r.indented indentUnit ≠ [] := by
  intro hnil
  obtain ⟨c, hc, -⟩ := hline.first
  rw [(List.append_eq_nil_iff.1 hnil).2] at hc
  cases hc

/-- Where a row starts, there is no newline. -/
theorem head?_rowsText_ne {rows : List Row} (hrows : Readable rows) :
    (rowsText indentUnit rows).head? ≠ some '\n' := by
  cases rows with
  | nil => simp [rowsText]
  | cons r rest =>
    have hline := hrows r List.mem_cons_self
    intro hhead
    rw [rowsText, List.head?_append_of_ne_nil _ (indented_ne_nil hline)] at hhead
    exact newline_not_mem_indented hunit hline (List.mem_of_head? hhead)

/-! ### After an opening brace -/

/-- The number of empty lines once the one after an opening brace is removed. -/
def gapAfterBrace (line : List Char) (blanks : Nat) (_ : Option (List Char)) : Nat :=
  if line.getLast? = some '\x7b' then blanks - 1 else blanks

omit hunit in
/-- After a line the scan knows whether the line ends with an opening brace, whatever it knew
before. -/
theorem dropAfterBrace_line (scan : BraceScan) {line : List Char} {c : Char}
    (hnewline : '\n' ∉ line) (hlast : line.getLast? = some c) (hc : isBlank c = false)
    (after : List Char) :
    dropAfterBrace scan (line ++ after) =
      line ++ dropAfterBrace (if c = '\x7b' then .afterBrace else .elsewhere) after := by
  obtain ⟨init, rfl⟩ := List.getLast?_eq_some_iff.1 hlast
  obtain ⟨kept, scan', hkept, hsame⟩ := dropAfterBrace_append scan init ([c] ++ after)
  have hinit : '\n' ∉ init := fun hmem => hnewline (List.mem_append_left _ hmem)
  rw [List.append_assoc, hkept, hsame hinit, List.append_assoc, List.singleton_append,
    dropAfterBrace.eq_def]
  simp only [ne_newline hc, not_indentation hc, Bool.false_and, Bool.false_eq_true, if_false]
  split <;> rfl

omit hunit in
theorem dropAfterBrace_newlines (n : Nat) (after : List Char) :
    dropAfterBrace .elsewhere (List.replicate n '\n' ++ after) =
      List.replicate n '\n' ++ dropAfterBrace .elsewhere after := by
  induction n with
  | zero => rfl
  | succ n ih => rw [List.replicate_succ, List.cons_append, List.cons_append, ← ih]; rfl

omit hunit in
/-- Of the newlines after an opening brace, the second one goes. -/
theorem dropAfterBrace_afterBrace (n : Nat) (after : List Char) :
    ∃ scan, dropAfterBrace .afterBrace (List.replicate (n + 1) '\n' ++ after) =
      List.replicate (n - 1 + 1) '\n' ++ dropAfterBrace scan after := by
  cases n with
  | zero => exact ⟨.afterBraceLine, rfl⟩
  | succ n =>
    refine ⟨.elsewhere, ?_⟩
    rw [Nat.add_sub_cancel, List.replicate_succ (n := n), List.cons_append,
      ← dropAfterBrace_newlines]
    rfl

theorem dropAfterBrace_rows (scan : BraceScan) {rows : List Row} (hrows : Readable rows) :
    dropAfterBrace scan (rowsText indentUnit rows) =
      rowsText indentUnit (adjust gapAfterBrace rows) := by
  induction rows generalizing scan with
  | nil => rfl
  | cons r rest ih =>
    have hline := hrows r List.mem_cons_self
    obtain ⟨c, hlast, hc⟩ := hline.last
    have hend : (r.indented indentUnit).getLast? = some c := by
      rw [Row.indented, List.getLast?_append, hlast]
      rfl
    rw [rowsText, dropAfterBrace_line scan (newline_not_mem_indented hunit hline) hend hc,
      adjust_cons, rowsText]
    refine congrArg (r.indented indentUnit ++ ·) ?_
    dsimp only
    rw [gapAfterBrace, hlast]
    by_cases hbrace : c = '\x7b'
    · obtain ⟨scan', hscan⟩ := dropAfterBrace_afterBrace r.blanks (rowsText indentUnit rest)
      rw [if_pos hbrace, if_pos (congrArg some hbrace), hscan, ih scan' hrows.tail]
    · rw [if_neg hbrace, if_neg (fun h => hbrace (Option.some.inj h)), dropAfterBrace_newlines,
        ih .elsewhere hrows.tail]

/-! ### Before a closing brace -/

/-- The number of empty lines once the one before a closing brace is removed. -/
def gapBeforeBrace (_ : List Char) (blanks : Nat) (next : Option (List Char)) : Nat :=
  if next.bind List.head? = some '\x7d' then blanks - 1 else blanks

/-- The first character of the rows that is no indentation. -/
theorem head?_dropWhile_rows {rows : List Row} (hrows : Readable rows) :
    ((rowsText indentUnit rows).dropWhile fun c => c = ' ' || c = '\t').head? =
      (rows.head?.map Row.line).bind List.head? := by
  cases rows with
  | nil => rfl
  | cons r rest =>
    obtain ⟨c, hfirst, hc⟩ := (hrows r List.mem_cons_self).first
    obtain ⟨tail, htail⟩ := List.head?_eq_some_iff.1 hfirst
    have hindent : ∀ d ∈ repeated indentUnit r.depth, (d = ' ' || d = '\t') = true := by
      intro d hd
      simpa using hunit.repeated r.depth d hd
    rw [rowsText, Row.indented, htail, List.append_assoc, List.dropWhile_append_of_pos hindent,
      List.cons_append,
      List.dropWhile_cons_of_neg (by rw [not_indentation hc]; exact Bool.false_ne_true)]
    simp [htail]

omit hunit in
/-- Of the newlines before a closing brace, the last but one goes. -/
theorem dropBeforeBrace_newlines {after : List Char} (hafter : after.head? ≠ some '\n') (n : Nat) :
    dropBeforeBrace (List.replicate (n + 1) '\n' ++ after) =
      List.replicate
        ((if (after.dropWhile fun c => c = ' ' || c = '\t').head? = some '\x7d' then n - 1
        else n) + 1) '\n' ++ dropBeforeBrace after := by
  have hclosed : opensWithClosedLine after = false := by
    rw [opensWithClosedLine]
    intro rest hrest
    exact hafter (by rw [hrest]; rfl)
  induction n with
  | zero =>
    rw [ite_self]
    change dropBeforeBrace ('\n' :: after) = '\n' :: dropBeforeBrace after
    rw [dropBeforeBrace, hclosed]
    rfl
  | succ n ih =>
    rw [List.replicate_succ, List.cons_append, dropBeforeBrace, ih]
    cases n with
    | zero =>
      have hopens : opensWithClosedLine (List.replicate (0 + 1) '\n' ++ after) =
        decide ((after.dropWhile fun c => c = ' ' || c = '\t').head? = some '\x7d') := rfl
      rw [hopens]
      split <;> simp_all
    | succ n =>
      have hopens : opensWithClosedLine (List.replicate (n + 1 + 1) '\n' ++ after) = false := rfl
      rw [hopens, Bool.and_false, if_neg Bool.false_ne_true, ← List.cons_append,
        ← List.replicate_succ]
      split <;> rfl

theorem dropBeforeBrace_rows {rows : List Row} (hrows : Readable rows) :
    dropBeforeBrace (rowsText indentUnit rows) =
      rowsText indentUnit (adjust gapBeforeBrace rows) := by
  induction rows with
  | nil => rfl
  | cons r rest ih =>
    obtain ⟨kept, hkept, hsame⟩ := dropBeforeBrace_append (r.indented indentUnit)
      (List.replicate (r.blanks + 1) '\n' ++ rowsText indentUnit rest)
    rw [rowsText, hkept, hsame (newline_not_mem_indented hunit (hrows r List.mem_cons_self)),
      dropBeforeBrace_newlines (head?_rowsText_ne hunit hrows.tail),
      head?_dropWhile_rows hunit hrows.tail, ih hrows.tail]
    rfl

/-! ### Several empty lines, and the last one -/

/-- The number of empty lines once all but one of several in a row are removed. -/
def gapSqueezed (_ : List Char) (blanks : Nat) (_ : Option (List Char)) : Nat := min blanks 1

omit hunit in
theorem squeezeNewlines_newlines {after : List Char} (hafter : after.head? ≠ some '\n')
    (n seen : Nat) :
    squeezeNewlines seen (List.replicate n '\n' ++ after) =
      List.replicate (min n (2 - seen)) '\n' ++ squeezeNewlines 0 after := by
  induction n generalizing seen with
  | zero =>
    rw [Nat.zero_min, List.replicate_zero, List.nil_append, List.nil_append]
    cases after with
    | nil => rfl
    | cons c after =>
      have hc : c ≠ '\n' := fun h => hafter (by rw [h]; rfl)
      rw [squeezeNewlines, squeezeNewlines, if_neg hc, if_neg hc]
  | succ n ih =>
    rw [List.replicate_succ, List.cons_append, squeezeNewlines, if_pos rfl, ih, ih]
    split
    · next hseen =>
      have hzero : 2 - seen = 0 := by omega
      rw [hzero, Nat.min_zero, Nat.min_zero]
    · have hnext : min (n + 1) (2 - seen) = min n (2 - (seen + 1)) + 1 := by omega
      rw [hnext, List.replicate_succ, List.cons_append]

omit hunit in
theorem squeezeNewlines_line (seen : Nat) {line : List Char} (hne : line ≠ [])
    (hnewline : '\n' ∉ line) (after : List Char) :
    squeezeNewlines seen (line ++ after) = line ++ squeezeNewlines 0 after := by
  induction line generalizing seen with
  | nil => exact absurd rfl hne
  | cons c line ih =>
    simp only [List.mem_cons, not_or] at hnewline
    rw [List.cons_append, squeezeNewlines, if_neg (Ne.symm hnewline.1), List.cons_append]
    cases line with
    | nil => rfl
    | cons d line => rw [ih 0 (List.cons_ne_nil d line) hnewline.2]

theorem squeezeNewlines_rows {rows : List Row} (hrows : Readable rows) :
    squeezeNewlines 0 (rowsText indentUnit rows) =
      rowsText indentUnit (adjust gapSqueezed rows) := by
  induction rows with
  | nil => rfl
  | cons r rest ih =>
    have hline := hrows r List.mem_cons_self
    have hmin : min (r.blanks + 1) (2 - 0) = min r.blanks 1 + 1 := by omega
    rw [rowsText,
      squeezeNewlines_line 0 (indented_ne_nil hline) (newline_not_mem_indented hunit hline),
      squeezeNewlines_newlines (head?_rowsText_ne hunit hrows.tail), hmin, ih hrows.tail]
    rfl

/-- The number of empty lines once the last one of the text is removed. -/
def gapAtEnd (_ : List Char) (blanks : Nat) (next : Option (List Char)) : Nat :=
  if next.isNone then blanks - 1 else blanks

omit hunit in
theorem dropTrailingBlank_newlines (n : Nat) :
    dropTrailingBlank (List.replicate (n + 1) '\n') = List.replicate (n - 1 + 1) '\n' := by
  induction n with
  | zero => rfl
  | succ n ih =>
    cases n with
    | zero => rfl
    | succ n =>
      rw [List.replicate_succ, dropTrailingBlank, ih]
      · rfl
      · simp [List.replicate_succ]

omit hunit in
/-- A row has a character that is no newline. -/
theorem exists_ne_newline {rows : List Row} (hrows : Readable rows) (hne : rows ≠ []) :
    ∃ c ∈ rowsText indentUnit rows, c ≠ '\n' := by
  obtain ⟨r, rest, rfl⟩ := List.exists_cons_of_ne_nil hne
  have hline := hrows r List.mem_cons_self
  obtain ⟨c, hfirst, -⟩ := hline.first
  have hmem := List.mem_of_head? hfirst
  exact ⟨c, List.mem_append_left _ (List.mem_append_right _ hmem), fun h =>
    hline.newline (h ▸ hmem)⟩

theorem dropTrailingBlank_rows {rows : List Row} (hrows : Readable rows) :
    dropTrailingBlank (rowsText indentUnit rows) = rowsText indentUnit (adjust gapAtEnd rows) := by
  induction rows with
  | nil => rfl
  | cons r rest ih =>
    have hindented := newline_not_mem_indented hunit (hrows r List.mem_cons_self)
    rw [rowsText, dropTrailingBlank_append (.inl hindented), adjust_cons, rowsText, ← ih hrows.tail]
    refine congrArg (r.indented indentUnit ++ ·) ?_
    cases rest with
    | nil =>
      rw [rowsText, List.append_nil, dropTrailingBlank_newlines]; exact (List.append_nil _).symm
    | cons next rest =>
      exact dropTrailingBlank_append
        (.inr (exists_ne_newline hrows.tail (List.cons_ne_nil next rest)))

/-! ## All clean-ups of empty lines -/

/-- What all clean-ups together make of a number of empty lines. -/
def gapCleaned (line : List Char) (blanks : Nat) (next : Option (List Char)) : Nat :=
  gapAtEnd line
    (gapSqueezed line (gapBeforeBrace line (gapAfterBrace line blanks next) next) next) next

/-- The page once its empty lines have been cleaned up. -/
def Page.clean (page : Page) : Page :=
  ⟨min page.lead (if page.rows = [] then 1 else 2), adjust gapCleaned page.rows⟩

omit hunit in
theorem Readable.adjust {rows : List Row} (h : Readable rows)
    (f : List Char → Nat → Option (List Char) → Nat) : Readable (Layout.adjust f rows) := by
  intro r hr
  have hmem : r.placed ∈ rows.map Row.placed := map_placed_adjust f rows ▸ List.mem_map_of_mem hr
  obtain ⟨other, hother, hplaced⟩ := List.mem_map.1 hmem
  exact (Placed.line.inj hplaced).2 ▸ h other hother

/-- The page does not start with a closing brace. -/
def Page.StartsOpen (page : Page) : Prop :=
  (page.rows.head?.map Row.line).bind List.head? ≠ some '\x7d'

/-- Newlines at the start stay where no closing brace follows them. -/
theorem dropBeforeBrace_lead (lead : Nat) {rows : List Row} (hrows : Readable rows)
    (hstart : (rows.head?.map Row.line).bind List.head? ≠ some '\x7d') :
    dropBeforeBrace (List.replicate lead '\n' ++ rowsText indentUnit rows) =
      List.replicate lead '\n' ++ rowsText indentUnit (adjust gapBeforeBrace rows) := by
  rw [← dropBeforeBrace_rows hunit hrows]
  cases lead with
  | zero => rfl
  | succ n =>
    rw [dropBeforeBrace_newlines (head?_rowsText_ne hunit hrows), head?_dropWhile_rows hunit hrows,
      if_neg hstart]

/-- An empty line at the end is removed, be there rows or not. -/
theorem dropTrailingBlank_lead (lead : Nat) {rows : List Row} (hrows : Readable rows) :
    dropTrailingBlank (List.replicate (min lead 2) '\n' ++ rowsText indentUnit rows) =
      List.replicate (min lead (if rows = [] then 1 else 2)) '\n'
        ++ rowsText indentUnit (adjust gapAtEnd rows) := by
  by_cases hnil : rows = []
  · subst hnil
    rw [if_pos rfl, rowsText, List.append_nil, adjust, rowsText, List.append_nil]
    match lead with
    | 0 => rfl
    | 1 => rfl
    | n + 2 => rw [Nat.min_eq_right (by omega), Nat.min_eq_right (by omega)]; rfl
  · rw [if_neg hnil, dropTrailingBlank_append (.inr (exists_ne_newline hrows hnil)),
      dropTrailingBlank_rows hunit hrows]

/-- What the clean-ups of empty lines make of a page. -/
theorem cleanLines_text {page : Page} (hrows : Readable page.rows) (hstart : page.StartsOpen) :
    cleanLines (page.text indentUnit) = page.clean.text indentUnit := by
  have hafter := hrows.adjust gapAfterBrace
  have hbefore := hafter.adjust gapBeforeBrace
  have hsqueezed := hbefore.adjust gapSqueezed
  rw [cleanLines, Page.text, dropAfterBrace_newlines, dropAfterBrace_rows hunit .elsewhere hrows,
    dropBeforeBrace_lead hunit page.lead hafter (by rwa [head?_adjust]),
    squeezeNewlines_newlines (head?_rowsText_ne hunit hbefore), squeezeNewlines_rows hunit hbefore,
    dropTrailingBlank_lead hunit page.lead hsqueezed, adjust_adjust, adjust_adjust, adjust_adjust]
  simp only [adjust_eq_nil_iff]
  rfl

end CleanUps

/-! ## Cleaning up twice -/

/-- The number of empty lines once there is one more at the end of the text. -/
def gapAdded (_ : List Char) (blanks : Nat) (next : Option (List Char)) : Nat :=
  if next.isNone then blanks + 1 else blanks

theorem rowsText_append_newline (indentUnit : List Char) {rows : List Row} (hne : rows ≠ []) :
    rowsText indentUnit rows ++ ['\n'] = rowsText indentUnit (adjust gapAdded rows) := by
  induction rows with
  | nil => exact absurd rfl hne
  | cons r rest ih =>
    rw [rowsText, List.append_assoc, List.append_assoc, adjust_cons, rowsText]
    refine congrArg (r.indented indentUnit ++ ·) ?_
    cases rest with
    | nil => rw [rowsText, List.nil_append, ← List.replicate_succ']; exact (List.append_nil _).symm
    | cons next rest => rw [ih (List.cons_ne_nil next rest)]; rfl

/-- At most one empty line stands after an opening brace or before a closing brace. -/
def Row.Tight (r next : Row) : Prop :=
  r.line.getLast? = some '\x7b' ∨ next.line.head? = some '\x7d' → r.blanks ≤ 1

theorem gapCleaned_none (line : List Char) (blanks : Nat) : gapCleaned line blanks none = 0 := by
  simp only [gapCleaned, gapAtEnd, gapSqueezed, Option.isNone_none, if_true]
  omega

/-- Each brace costs one empty line, and of the others one is left. -/
theorem gapCleaned_some_eq (line : List Char) (blanks : Nat) (next : List Char) :
    gapCleaned line blanks (some next) =
      min (blanks - (if line.getLast? = some '\x7b' then 1 else 0)
        - (if next.head? = some '\x7d' then 1 else 0)) 1 := by
  unfold gapCleaned gapAtEnd gapSqueezed gapBeforeBrace gapAfterBrace
  rw [Option.isNone_some, if_neg Bool.false_ne_true, Option.bind_some]
  split_ifs <;> rfl

theorem gapCleaned_some {r next : Row} (h : r.Tight next) :
    gapCleaned r.line r.blanks (some next.line) =
      if r.line.getLast? = some '\x7b' ∨
      next.line.head? = some '\x7d' then 0 else min r.blanks 1 := by
  rw [gapCleaned_some_eq]
  by_cases hbrace : r.line.getLast? = some '\x7b' ∨ next.line.head? = some '\x7d'
  · have hone : r.blanks ≤ 1 := h hbrace
    rw [if_pos hbrace]
    rcases hbrace with hline | hnext
    · rw [if_pos hline]
      omega
    · rw [if_pos hnext]
      omega
  · obtain ⟨hline, hnext⟩ := not_or.1 hbrace
    rw [if_neg hbrace, if_neg hline, if_neg hnext]
    rfl

/-- Cleaning up the numbers of empty lines once more changes nothing, be there one more at the
end. -/
theorem adjust_clean_again {rows : List Row} (h : rows.IsChain Row.Tight) :
    adjust gapCleaned (adjust gapAdded (adjust gapCleaned rows)) = adjust gapCleaned rows := by
  rw [adjust_adjust, adjust_adjust]
  refine adjust_congr h (fun r next hr => ?_) (fun r => ?_)
  · have hagain :
        Row.Tight { r with blanks := gapCleaned r.line r.blanks (some next.line) } next := by
      intro hbrace
      rw [gapCleaned_some hr, if_pos hbrace]
      exact Nat.zero_le 1
    have hsame := gapCleaned_some hagain
    dsimp only at hsame
    rw [gapAdded, Option.isNone_some, if_neg Bool.false_ne_true, hsame, gapCleaned_some hr]
    split
    · rfl
    · rw [Nat.min_assoc, Nat.min_self]
  · rw [gapCleaned_none, gapCleaned_none]

/-- A clean page stays as it is when one more empty line is added at its end. -/
theorem cleanLines_append_newline {indentUnit : List Char} (hunit : IsIndentation indentUnit)
    {page : Page} (hrows : Readable page.rows) (hstart : page.StartsOpen)
    (htight : page.rows.IsChain Row.Tight) (hne : page.text indentUnit ≠ []) :
    cleanLines (page.clean.text indentUnit ++ ['\n']) = page.clean.text indentUnit := by
  obtain ⟨lead, rows⟩ := page
  by_cases hnil : rows = []
  · -- There are only empty lines, of which one is left.
    subst hnil
    have hlead : lead ≠ 0 := by
      rintro rfl
      exact hne rfl
    have hclean : Page.clean ⟨lead, []⟩ = ⟨1, []⟩ := by
      rw [Page.clean, if_pos rfl, Nat.min_eq_right (Nat.one_le_iff_ne_zero.2 hlead)]
      rfl
    rw [hclean]
    rfl
  · have hcleaned : adjust gapCleaned rows ≠ [] := fun h => hnil (adjust_eq_nil_iff.1 h)
    have hclean : Page.clean ⟨lead, rows⟩ = ⟨min lead 2, adjust gapCleaned rows⟩ := by
      rw [Page.clean, if_neg hnil]
    have hagain : Page.clean ⟨min lead 2, adjust gapAdded (adjust gapCleaned rows)⟩ =
        ⟨min lead 2, adjust gapCleaned rows⟩ := by
      rw [Page.clean, if_neg (fun h => hcleaned (adjust_eq_nil_iff.1 h)), adjust_clean_again htight,
        Nat.min_assoc, Nat.min_self]
    have hopen : Page.StartsOpen ⟨min lead 2, adjust gapAdded (adjust gapCleaned rows)⟩ := by
      rw [Page.StartsOpen, head?_adjust, head?_adjust]
      exact hstart
    rw [hclean, Page.text, List.append_assoc, rowsText_append_newline indentUnit hcleaned]
    exact (cleanLines_text hunit ((hrows.adjust gapCleaned).adjust gapAdded) hopen).trans
      (congrArg (Page.text indentUnit) hagain)

end DartRecords.Layout
