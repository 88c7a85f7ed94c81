import DartRecords.Proofs.JoinedRows
import DartRecords.Proofs.Relayout

/-!
# Comments and the code around them

A comment opens and closes nothing, so with another comment in its place all other lines are placed
where they were (`placeLines_comment`).  The clean-ups do not know comments, though.  They join a
comment that ends with an opening bracket to a line that starts with the closing one, and they take
out an empty line after a comment that ends with an opening brace.

The rows before a comment are the same whatever it says, since it starts with a slash
(`joinAll_append`, `exists_adjust_append`).  It takes in the next row if there is a gap between them
(`joinAll_cons`), and else the row stays and the empty lines before it are counted
(`gapCleaned_eq_iff`).  From these the lines around two comments can be compared
(`exists_lines_clean`, `sameButComment_iff`).
-/

namespace DartRecords.Layout

open Text (isBlank trim)

/-! ## Replacing a comment -/

/-- The comment in a line with another body. -/
def withBody (body line : List Char) : List Char := line.takeWhile isBlank ++ '/' :: '/' :: body

/-- The code with another body for the comment in its line `i`, counted from 0. -/
def replaceComment (i : Nat) (body raw : List Char) : List Char :=
  ['\n'].intercalate ((splitLines raw).modify i (withBody body))

theorem isComment_trim_withBody (body line : List Char) :
    isComment (trim (withBody body line)) = true := by
  have hgap : ∀ c ∈ line.takeWhile isBlank, isBlank c = true :=
    List.all_eq_true.1 List.all_takeWhile
  have hfront : (withBody body line).dropWhile isBlank = '/' :: '/' :: body :=
    (List.dropWhile_append_of_pos hgap).trans (List.dropWhile_cons_of_neg (by decide))
  obtain ⟨kept, hkept⟩ := @dropWhile_isBlank_append body.reverse ['/'] '/' (by decide)
  have hshape : ('/' :: '/' :: body).reverse = body.reverse ++ ['/', '/'] := by simp
  rw [trim, hfront, hshape, hkept, List.reverse_append]
  rfl

theorem newline_not_mem_withBody {body line : List Char} (hbody : '\n' ∉ body)
    (hline : '\n' ∉ line) :
    '\n' ∉ withBody body line := by
  intro hmem
  rcases List.mem_append.1 hmem with hmem | hmem
  · exact hline ((List.takeWhile_prefix _).mem hmem)
  · simp [hbody] at hmem

/-- Only the line of the comment is another one. -/
theorem splitLines_replaceComment {i : Nat} {body raw line : List Char}
    (hline : (splitLines raw)[i]? = some line) (hbody : '\n' ∉ body) :
    splitLines raw = (splitLines raw).take i ++ line :: (splitLines raw).drop (i + 1) ∧
    splitLines (replaceComment i body raw) =
      (splitLines raw).take i ++ withBody body line :: (splitLines raw).drop (i + 1) := by
  obtain ⟨hi, rfl⟩ := List.getElem?_eq_some_iff.1 hline
  have hlines : splitLines raw = (splitLines raw).take i ++ (splitLines raw)[i] ::
      (splitLines raw).drop (i + 1) := by
    rw [← List.drop_eq_getElem_cons hi, List.take_append_drop]
  have hmodify : (splitLines raw).modify i (withBody body) =
      (splitLines raw).take i ++ withBody body (splitLines raw)[i] ::
      (splitLines raw).drop (i + 1) :=
    List.modify_eq_take_cons_drop hi
  refine ⟨hlines, ?_⟩
  rw [replaceComment, hmodify, splitLines_eq_splitOnP]
  refine List.splitOn_intercalate '\n' ?_ (by simp)
  have hraw : ∀ other ∈ splitLines raw, '\n' ∉ other := fun _ => newline_not_mem_of_mem_splitLines
  refine List.forall_mem_append.2 ⟨fun other hother => hraw other (List.mem_of_mem_take hother), ?_⟩
  refine List.forall_mem_cons.2 ⟨newline_not_mem_withBody hbody (hraw _ (List.getElem_mem hi)), ?_⟩
  exact fun other hother => hraw other (List.mem_of_mem_drop hother)

/-! ## Placing a comment -/

theorem exists_of_isComment {line : List Char} (h : isComment line = true) :
    ∃ body, line = '/' :: '/' :: body := by
  rw [isComment_eq, decide_eq_true_eq] at h
  obtain ⟨body, rfl⟩ := h
  exact ⟨body, rfl⟩

/-- A comment is placed where the stack is, and leaves it as it is. -/
theorem place_comment (stack : Stack) {line : List Char} (h : isComment line = true) :
    place stack line = some (.line stack.length line, stack) := by
  obtain ⟨body, rfl⟩ := exists_of_isComment h
  rfl

/-- With another comment in their place, the lines fail to be placed with the same error, or they
are placed where they were. -/
theorem placeLines_comment {comment comment' : List Char}
    (hcomment : isComment (trim comment) = true) (hcomment' : isComment (trim comment') = true)
    (n : Nat) (stack : Stack) (before after : List (List Char)) :
    (∃ e, placeLines n stack (before ++ comment :: after) = .error e ∧
      placeLines n stack (before ++ comment' :: after) = .error e) ∨
    ∃ earlier depth later final,
      placeLines n stack (before ++ comment :: after) =
        .ok (earlier ++ .line depth (trim comment) :: later, final) ∧
      placeLines n stack (before ++ comment' :: after) =
        .ok (earlier ++ .line depth (trim comment') :: later, final) ∧
      later.map Placed.source = after.map trim := by
  induction before generalizing n stack with
  | nil =>
    have hplace : ∀ line, isComment (trim line) = true → placeLines n stack (line :: after) =
        (placeLines (n + 1) stack after).map fun placed =>
          (.line stack.length (trim line) :: placed.1, placed.2) := by
      intro line hline
      rw [placeLines, place_comment stack hline]
      dsimp only
      cases placeLines (n + 1) stack after <;> rfl
    rw [List.nil_append, List.nil_append, hplace comment hcomment, hplace comment' hcomment']
    cases hafter : placeLines (n + 1) stack after with
    | error e => exact .inl ⟨e, rfl, rfl⟩
    | ok placed =>
      exact .inr ⟨[], stack.length, placed.1, placed.2, rfl, rfl, map_source_of_placeLines hafter⟩
  | cons first before ih =>
    rw [List.cons_append, List.cons_append, placeLines, placeLines]
    cases place stack (trim first) with
    | none => exact .inl ⟨_, rfl, rfl⟩
    | some placed =>
      obtain ⟨one, inner⟩ := placed
      dsimp only
      rcases ih (n + 1) inner with ⟨e, he, he'⟩ | ⟨earlier, depth, later, final, hok, hok', hlater⟩
      · rw [he, he']
        exact .inl ⟨e, rfl, rfl⟩
      · rw [hok, hok']
        exact .inr ⟨one :: earlier, depth, later, final, rfl, rfl, hlater⟩

/-! ## Joining around a comment -/

/-- Whether an opening bracket and the closing bracket of its kind stand on the two sides of a
gap. -/
def isGap (last first : Option Char) : Bool :=
  (last = some '\x7b' ∧ first = some '\x7d') || (last = some '(' ∧ first = some ')') ||
    (last = some '[' ∧ first = some ']')

/-- Puts a row before others, or has it take in the first of them. -/
def putBefore (taken : Bool) (r : Row) (rows : List Row) : List Row :=
  if taken then takeIn r rows else r :: rows

section Join

variable {opening closing : Char}

/-- Rows that do not start with the closing bracket are joined independently of those before
them. -/
theorem joinRows_append {rows others : List Row} (hrows : Readable rows) (hothers : Readable others)
    (hstart : start? others ≠ some closing) :
    joinRows opening closing (rows ++ others) =
      joinRows opening closing rows ++ joinRows opening closing others := by
  induction rows with
  | nil => rfl
  | cons r rest ih =>
    rw [List.cons_append, joinRows, ih hrows.tail, joinRows]
    cases rest with
    | nil =>
      have hnone : ¬((r.joined opening closing).line.getLast? = some opening ∧
          start? (joinRows opening closing others) = some closing) := by
        rw [start?_joinRows _ _ hothers]
        exact fun h => hstart h.2
      rw [joinRows, List.nil_append, joinRow, if_neg hnone, joinRow, if_neg (by simp [start?])]
      rfl
    | cons next more =>
      obtain ⟨first, joined, hjoined, -⟩ :=
        exists_joinRows_cons opening closing (hrows.tail next List.mem_cons_self) more
      have hsame : start? (first :: (joined ++ joinRows opening closing others)) =
          start? (first :: joined) := rfl
      rw [hjoined, joinRow, joinRow, List.cons_append, hsame]
      split <;> rfl

variable (hpair : IsBracketPair opening closing)
include hpair

/-- Two lines are joined independently if nothing stands between them. -/
theorem joinEmpty_append {line other : List Char} (hline : Visible line) (hother : Visible other) :
    joinEmpty opening closing [] (line ++ other) =
      joinEmpty opening closing [] line ++ joinEmpty opening closing [] other := by
  obtain ⟨last, hlast, hblank⟩ := hline.last
  obtain ⟨first, hfirst, hfirstBlank⟩ := hother.first
  obtain ⟨init, rfl⟩ := List.getLast?_eq_some_iff.1 hlast
  obtain ⟨rest, rfl⟩ := List.head?_eq_some_iff.1 hfirst
  obtain ⟨written, hwritten⟩ := exists_joinEmpty_append hpair hblank [] init
  rw [List.append_assoc, List.singleton_append, hwritten, hwritten [], List.append_assoc]
  refine congrArg (written ++ ·) ?_
  by_cases hopen : last = opening
  · -- The bracket is held back, and written out again since there is no gap after it.
    subst hopen
    rw [joinEmpty_nil_opening, joinEmpty_nil_opening, joinEmpty_held_cons hfirstBlank,
      if_neg (by simp)]
    rfl
  · rw [joinEmpty_nil_cons_of_ne hopen, joinEmpty_nil_cons_of_ne hopen]
    rfl

variable {r : Row} {rows : List Row} (hr : Visible r.line) (hrows : Readable rows)
include hr hrows

theorem joinRows_cons :
    joinRows opening closing (r :: rows) =
      putBefore (r.line.getLast? = some opening ∧ start? rows = some closing)
        (r.joined opening closing) (joinRows opening closing rows) := by
  rw [joinRows, joinRow, getLast?_joined hpair hr, start?_joinRows _ _ hrows, putBefore]
  simp only [decide_eq_true_eq]

/-- Joining rows after the first has taken in the second. -/
theorem joinRows_takeIn :
    joinRows opening closing (takeIn r rows) =
      takeIn (r.joined opening closing) (joinRows opening closing rows) := by
  cases rows with
  | nil => simp [takeIn, joinRows, joinRow, start?]
  | cons next rest =>
    have hnext := hrows next List.mem_cons_self
    have hline : Row.joined opening closing ⟨r.depth, r.line ++ next.line, next.blanks⟩ =
        ⟨r.depth, (r.joined opening closing).line ++ (next.joined opening closing).line,
          next.blanks⟩ :=
      congrArg (Row.mk r.depth · next.blanks) (joinEmpty_append hpair hr hnext)
    rw [takeIn, joinRows_cons hpair (hr.append hnext) hrows.tail,
      joinRows_cons hpair hnext hrows.tail, hnext.getLast?_append, hline]
    cases decide (next.line.getLast? = some opening ∧ start? rest = some closing) with
    | false => rfl
    | true =>
      rw [putBefore, putBefore, if_pos rfl, if_pos rfl]
      cases joinRows opening closing rest with
      | nil => rfl
      | cons other others => simp only [takeIn, List.append_assoc, Row.joined_depth]

/-- A clean-up takes the next row in if that has been done before, or if there is a gap for it. -/
theorem joinRows_putBefore (taken : Bool) :
    joinRows opening closing (putBefore taken r rows) =
      putBefore (taken || decide (r.line.getLast? = some opening ∧ start? rows = some closing))
        (r.joined opening closing) (joinRows opening closing rows) := by
  cases taken with
  | false => exact joinRows_cons hpair hr hrows
  | true => exact joinRows_takeIn hpair hr hrows

end Join

/-- The row with all brackets in its line joined. -/
def Row.collapsed (r : Row) : Row := { r with line := collapse r.line }

/-- A row takes the next one in if there is a gap between them. -/
theorem joinAll_cons {r : Row} {rows : List Row} (hr : Visible r.line) (hrows : Readable rows) :
    joinAll (r :: rows) =
      putBefore (isGap r.line.getLast? (start? rows)) r.collapsed (joinAll rows) := by
  have hcurly : Visible (r.joined '\x7b' '\x7d').line := hr.joinEmpty isBracketPair_curly
  have hround : Visible ((r.joined '\x7b' '\x7d').joined '(' ')').line :=
    hcurly.joinEmpty isBracketPair_round
  have hrowsCurly := hrows.joinRows isBracketPair_curly
  have hrowsRound := hrowsCurly.joinRows isBracketPair_round
  rw [joinAll, joinRows_cons isBracketPair_curly hr hrows,
    joinRows_putBefore isBracketPair_round hcurly hrowsCurly,
    joinRows_putBefore isBracketPair_square hround hrowsRound,
    getLast?_joined isBracketPair_round hcurly, getLast?_joined isBracketPair_curly hr,
    start?_joinRows _ _ hrowsCurly, start?_joinRows _ _ hrows]
  rfl

/-- Rows that start with a slash are joined independently of those before them. -/
theorem joinAll_append {rows others : List Row} (hrows : Readable rows) (hothers : Readable others)
    (hstart : start? others = some '/') :
    joinAll (rows ++ others) = joinAll rows ++ joinAll others := by
  have hcurly := hothers.joinRows isBracketPair_curly
  have hround := hcurly.joinRows isBracketPair_round
  have hstartCurly := (start?_joinRows '\x7b' '\x7d' hothers).trans hstart
  have hstartRound := (start?_joinRows '(' ')' hcurly).trans hstartCurly
  rw [joinAll, joinRows_append hrows hothers (by simp [hstart]),
    joinRows_append (hrows.joinRows isBracketPair_curly) hcurly (by simp [hstartCurly]),
    joinRows_append ((hrows.joinRows isBracketPair_curly).joinRows isBracketPair_round) hround
      (by simp [hstartRound])]
  rfl

/-! ## Empty lines around a comment -/

theorem getLast?_collapsed {r : Row} (hr : Visible r.line) :
    r.collapsed.line.getLast? = r.line.getLast? := by
  have hcurly : Visible (r.joined '\x7b' '\x7d').line := hr.joinEmpty isBracketPair_curly
  have hround : Visible ((r.joined '\x7b' '\x7d').joined '(' ')').line :=
    hcurly.joinEmpty isBracketPair_round
  exact (getLast?_joined isBracketPair_square hround).trans <|
    (getLast?_joined isBracketPair_round hcurly).trans (getLast?_joined isBracketPair_curly hr)

/-- Of the lines on both sides of empty lines only the ends count. -/
theorem gapCleaned_congr {line line' : List Char} {next next' : Option (List Char)}
    (hlast : line.getLast? = line'.getLast?) (hhead : next.bind List.head? = next'.bind List.head?)
    (hnone : next.isNone = next'.isNone) (blanks : Nat) :
    gapCleaned line blanks next = gapCleaned line' blanks next' := by
  simp only [gapCleaned, gapAtEnd, gapSqueezed, gapBeforeBrace, gapAfterBrace, hlast, hhead, hnone]

theorem isNone_start? {rows : List Row} (h : Readable rows) :
    (start? rows).isNone = (rows.head?.map Row.line).isNone := by
  cases rows with
  | nil => rfl
  | cons r rest =>
    obtain ⟨first, hfirst, -⟩ := (h r List.mem_cons_self).first
    exact congrArg Option.isNone hfirst

/-- Joining brackets does not matter to the empty lines before rows. -/
theorem gapCleaned_joinAll (line : List Char) (blanks : Nat) {rows : List Row} (h : Readable rows) :
    gapCleaned line blanks ((joinAll rows).head?.map Row.line) =
      gapCleaned line blanks (rows.head?.map Row.line) := by
  have hstart := start?_joinAll h
  refine gapCleaned_congr rfl hstart ?_ blanks
  rw [← isNone_start? h.joinAll, ← isNone_start? h, hstart]

/-- Cleaning up rows after the first has taken in the second, or has not. -/
theorem adjust_putBefore {taken : Bool} (r : Row) {rows : List Row} (hrows : Readable rows)
    (htaken : taken = true → rows ≠ []) :
    adjust gapCleaned (putBefore taken r rows) =
      putBefore taken { r with blanks := gapCleaned r.line r.blanks (rows.head?.map Row.line) }
        (adjust gapCleaned rows) := by
  cases taken with
  | false => rfl
  | true =>
    obtain ⟨next, rest, rfl⟩ := List.exists_cons_of_ne_nil (htaken rfl)
    have hlast := (hrows next List.mem_cons_self).getLast?_append r.line
    exact congrArg (⟨r.depth, r.line ++ next.line, ·⟩ :: adjust gapCleaned rest)
      (gapCleaned_congr hlast rfl rfl next.blanks)

/-- What is left of the empty lines before rows that start with a slash does not depend on these
rows. -/
theorem exists_adjust_append (rows : List Row) :
    ∃ cleaned, ∀ others, start? others = some '/' →
      adjust gapCleaned (rows ++ others) = cleaned ++ adjust gapCleaned others := by
  induction rows with
  | nil => exact ⟨[], fun _ _ => rfl⟩
  | cons r rest ih =>
    obtain ⟨cleaned, hcleaned⟩ := ih
    cases rest with
    | nil =>
      refine ⟨[{ r with blanks := gapCleaned r.line r.blanks (some ['/']) }],
        fun others hstart => ?_⟩
      cases others with
      | nil => cases hstart
      | cons next more =>
        have hhead : (some next.line).bind List.head? = (some ['/']).bind List.head? := hstart
        have hgap : gapCleaned r.line r.blanks (some next.line) =
            gapCleaned r.line r.blanks (some ['/']) :=
          gapCleaned_congr rfl hhead rfl r.blanks
        exact congrArg ({ r with blanks := · } :: adjust gapCleaned (next :: more)) hgap
    | cons next more =>
      refine ⟨{ r with blanks := gapCleaned r.line r.blanks (some next.line) } :: cleaned,
        fun others hstart => ?_⟩
      rw [List.cons_append, adjust_cons, hcleaned others hstart]
      rfl

/-- Where no gap is before the next line, the ends of two lines matter if there is one empty
line. -/
theorem gapCleaned_eq_iff {line line' next : List Char} (h : isGap line.getLast? next.head? = false)
    (h' : isGap line'.getLast? next.head? = false) (blanks : Nat) :
    gapCleaned line blanks (some next) = gapCleaned line' blanks (some next) ↔
      (blanks = 1 → (line.getLast? = some '\x7b' ↔ line'.getLast? = some '\x7b')) := by
  have happart {last : Option Char} (hgap : isGap last next.head? = false)
      (hnext : next.head? = some '\x7d') :
      last ≠ some '\x7b' := by
    rintro rfl
    rw [hnext] at hgap
    cases hgap
  rw [gapCleaned_some_eq, gapCleaned_some_eq]
  by_cases hnext : next.head? = some '\x7d'
  · have hline := happart h hnext
    have hline' := happart h' hnext
    rw [if_neg hline, if_neg hline']
    exact iff_of_true rfl fun _ => iff_of_false hline hline'
  · rw [if_neg hnext]
    by_cases hline : line.getLast? = some '\x7b'
    · rw [if_pos hline]
      by_cases hline' : line'.getLast? = some '\x7b'
      · rw [if_pos hline']
        exact iff_of_true rfl fun _ => iff_of_true hline hline'
      · rw [if_neg hline']
        constructor
        · intro heq hone
          omega
        · intro hsame
          have hne : blanks ≠ 1 := fun hone => hline' ((hsame hone).1 hline)
          omega
    · rw [if_neg hline]
      by_cases hline' : line'.getLast? = some '\x7b'
      · rw [if_pos hline']
        constructor
        · intro heq hone
          omega
        · intro hsame
          have hne : blanks ≠ 1 := fun hone => hline ((hsame hone).2 hline')
          omega
      · rw [if_neg hline']
        exact iff_of_true rfl fun _ => iff_of_false hline hline'

/-! ## Lines around a comment -/

/-- Lines that are the same but for a comment, with the brackets in it joined.  Its own line may go
on after it, in the same way for both comments. -/
def SameButComment (indentUnit comment comment' : List Char) (lines lines' : List (List Char)) :
    Prop :=
  ∃ before depth more after,
    lines = before ++ (repeated indentUnit depth ++ (collapse comment ++ more)) :: after ∧
    lines' = before ++ (repeated indentUnit depth ++ (collapse comment' ++ more)) :: after

theorem SameButComment.length_eq {indentUnit comment comment' : List Char}
    {lines lines' : List (List Char)}
    (h : SameButComment indentUnit comment comment' lines lines') :
    lines.length = lines'.length := by
  obtain ⟨before, depth, more, after, rfl, rfl⟩ := h
  simp

section Lines

variable {indentUnit : List Char}

/-- A row that takes in the next one stands in the line of that one. -/
theorem length_lines_putBefore {taken : Bool} (r : Row) {rows : List Row}
    (htaken : taken = true → rows ≠ []) :
    ((putBefore taken r rows).flatMap (Row.lines indentUnit)).length =
      (rows.flatMap (Row.lines indentUnit)).length + if taken then 0 else r.blanks + 1 := by
  cases taken with
  | false =>
    have hlines : (putBefore false r rows).flatMap (Row.lines indentUnit) =
      r.indented indentUnit ::
      (List.replicate r.blanks [] ++ rows.flatMap (Row.lines indentUnit)) := rfl
    rw [hlines, List.length_cons, List.length_append, List.length_replicate,
      if_neg Bool.false_ne_true]
    omega
  | true =>
    obtain ⟨next, rest, rfl⟩ := List.exists_cons_of_ne_nil (htaken rfl)
    rfl

/-- The lines with one comment and with another one: a row is taken in by both or by none, and then
as many empty lines stand after both. -/
theorem sameButComment_iff (before after : List (List Char)) (depth : Nat)
    (comment comment' : List Char) {blanks blanks' : Nat} {taken taken' : Bool} {rows : List Row}
    (htaken : taken = true → rows ≠ []) (htaken' : taken' = true → rows ≠ []) :
    SameButComment indentUnit comment comment'
        (before ++
          ((putBefore taken ⟨depth, collapse comment, blanks⟩ rows).flatMap (Row.lines indentUnit)
          ++ after))
        (before ++ ((putBefore taken' ⟨depth, collapse comment', blanks'⟩ rows).flatMap
          (Row.lines indentUnit)
          ++ after)) ↔
      taken = taken' ∧ (taken = false → blanks = blanks') := by
  constructor
  · -- The numbers of lines tell.
    intro h
    have hlength := h.length_eq
    rw [List.length_append, List.length_append, List.length_append, List.length_append,
      length_lines_putBefore _ htaken, length_lines_putBefore _ htaken'] at hlength
    cases taken <;> cases taken' <;> simp only [Bool.false_eq_true, if_false, if_true] at hlength
    · exact ⟨rfl, fun _ => by omega⟩
    · omega
    · omega
    · exact ⟨rfl, fun hfalse => by cases hfalse⟩
  · rintro ⟨rfl, hblanks⟩
    cases taken with
    | false =>
      obtain rfl := hblanks rfl
      refine ⟨before, depth, [], List.replicate blanks [] ++ rows.flatMap (Row.lines indentUnit) ++
        after, ?_, ?_⟩
      · simp [putBefore, Row.lines, Row.indented]
      · simp [putBefore, Row.lines, Row.indented]
    | true =>
      obtain ⟨next, rest, rfl⟩ := List.exists_cons_of_ne_nil (htaken rfl)
      exact ⟨before, depth, next.line,
        List.replicate next.blanks [] ++ rest.flatMap (Row.lines indentUnit) ++ after,
        rfl, rfl⟩

end Lines

/-- Where there is a gap, a row follows it. -/
theorem joinAll_ne_nil_of_isGap {last : Option Char} {rows : List Row} (hrows : Readable rows)
    (h : isGap last (start? rows) = true) : joinAll rows ≠ [] := by
  intro hnil
  rw [← start?_joinAll hrows, hnil] at h
  simp [isGap, start?] at h

/-- The lines before those of a comment are known without the comment. -/
theorem exists_lines_clean (indentUnit : List Char) (lead : Nat) {rows others : List Row}
    (hrows : Readable rows) (hothers : Readable others) :
    ∃ before, ∀ r : Row, Visible r.line → r.line.head? = some '/' →
      (Page.joined ⟨lead, rows ++ r :: others⟩).clean.lines indentUnit =
        before ++ (putBefore (isGap r.line.getLast? (start? others))
          ⟨r.depth, collapse r.line, gapCleaned r.line r.blanks (others.head?.map Row.line)⟩
          (adjust gapCleaned (joinAll others))).flatMap (Row.lines indentUnit) := by
  obtain ⟨cleaned, hcleaned⟩ := exists_adjust_append (joinAll rows)
  refine ⟨List.replicate (min lead 2) [] ++ cleaned.flatMap (Row.lines indentUnit),
    fun r hr hslash => ?_⟩
  have hall : Readable (r :: others) := List.forall_mem_cons.2 ⟨hr, hothers⟩
  have hstart : start? (joinAll (r :: others)) = some '/' := (start?_joinAll hall).trans hslash
  have hjoined := joinAll_append hrows hall hslash
  have hclean : adjust gapCleaned (joinAll (rows ++ r :: others)) =
      cleaned ++ putBefore (isGap r.line.getLast? (start? others))
        ⟨r.depth, collapse r.line, gapCleaned r.line r.blanks (others.head?.map Row.line)⟩
        (adjust gapCleaned (joinAll others)) := by
    rw [hjoined, hcleaned _ hstart, joinAll_cons hr hothers,
      adjust_putBefore _ hothers.joinAll (joinAll_ne_nil_of_isGap hothers),
      gapCleaned_joinAll _ _ hothers, gapCleaned_congr (getLast?_collapsed hr) rfl rfl]
    rfl
  have hne : joinAll (rows ++ r :: others) ≠ [] := by
    intro hnil
    rw [hjoined] at hnil
    rw [(List.append_eq_nil_iff.1 hnil).2] at hstart
    cases hstart
  rw [Page.joined, Page.clean, if_neg hne, hclean, Page.lines, List.flatMap_append,
    List.append_assoc]

/-! ## What a comment reaches -/

/-- Two comments do the same to the lines after them.  The next line that is not blank is joined to
both comments or to none of them.  If it is joined to none and one blank line stands before it, then
this line is taken out after both or after none. -/
def ReachAlike (comment comment' : List Char) (later : List (List Char)) : Prop :=
  ∀ blanks next after, next ≠ [] → later = List.replicate blanks [] ++ next :: after →
    isGap comment.getLast? next.head? = isGap comment'.getLast? next.head? ∧
    (isGap comment.getLast? next.head? = false → blanks = 1 →
      (comment.getLast? = some '\x7b' ↔ comment'.getLast? = some '\x7b'))

/-- What two comments reach in the rows after them. -/
theorem reachAlike_iff (comment comment' : List Char) {later : List Placed}
    (hlater : Readable (Page.of later).rows) :
    ReachAlike comment comment' (later.map Placed.source) ↔
      isGap comment.getLast? (start? (Page.of later).rows) =
          isGap comment'.getLast? (start? (Page.of later).rows) ∧
        (isGap comment.getLast? (start? (Page.of later).rows) = false →
          gapCleaned comment (Page.of later).lead ((Page.of later).rows.head?.map Row.line) =
            gapCleaned comment' (Page.of later).lead
              ((Page.of later).rows.head?.map Row.line)) := by
  have hplaced : ∀ depth text, .line depth text ∈ later → text ≠ [] :=
    fun _ _ hmem => (hlater.visible_of_mem hmem).ne_nil
  cases hpage : Page.of later with
  | mk lead rows =>
    cases rows with
    | nil =>
      have hgap : ∀ last, isGap last (start? []) = false := by simp [isGap, start?]
      refine iff_of_true ?_ ⟨by rw [hgap, hgap], fun _ => ?_⟩
      · intro blanks next after hnext hsource
        obtain ⟨depth, more, rfl⟩ := exists_of_source_eq hplaced hnext hsource
        rw [Page.of_blanks_append] at hpage
        cases hpage
      · rw [List.head?_nil, Option.map_none, gapCleaned_none, gapCleaned_none]
    | cons r rest =>
      -- The line of the row is the one that comes next, after as many blank lines as the page
      -- starts with.
      obtain ⟨more, hmore⟩ := exists_of_page_eq hpage
      constructor
      · intro h
        obtain ⟨hgaps, hblanks⟩ := h lead r.line (more.map Placed.source)
          (hplaced r.depth r.line (by simp [hmore])) (by simp [hmore, Placed.source])
        exact ⟨hgaps, fun hgap => (gapCleaned_eq_iff hgap (hgaps ▸ hgap) lead).2 (hblanks hgap)⟩
      · rintro ⟨hgaps, hcleaned⟩ blanks next after hnext hsource
        obtain ⟨depth, others, hothers⟩ := exists_of_source_eq hplaced hnext hsource
        rw [hothers, Page.of_blanks_append, Page.of, Nat.zero_add] at hpage
        cases hpage
        exact ⟨hgaps, fun hgap => (gapCleaned_eq_iff hgap (hgaps ▸ hgap) _).1 (hcleaned hgap)⟩

/-- The texts of placed lines with one comment and with another one. -/
theorem sameButComment_placed_iff {indentUnit comment comment' : List Char}
    (hunit : IsIndentation indentUnit) (hcomment : isComment comment = true)
    (hcomment' : isComment comment' = true) {earlier later : List Placed} {depth : Nat}
    (hplaced : Readable (Page.of (earlier ++ .line depth comment :: later)).rows)
    (hplaced' : Readable (Page.of (earlier ++ .line depth comment' :: later)).rows) :
    SameButComment indentUnit comment comment'
        (splitLines
          ((Page.of (earlier ++ .line depth comment :: later)).joined.clean.text indentUnit))
        (splitLines
          ((Page.of (earlier ++ .line depth comment' :: later)).joined.clean.text indentUnit)) ↔
      ReachAlike comment comment' (later.map Placed.source) := by
  rw [splitLines_text hunit (hplaced.joined.adjust gapCleaned),
    splitLines_text hunit (hplaced'.joined.adjust gapCleaned)]
  rw [Page.of_append_line] at hplaced hplaced' ⊢
  rw [Page.of_append_line]
  obtain ⟨hrows, hmore⟩ := List.forall_mem_append.1 hplaced
  obtain ⟨hvisible, hothers⟩ := List.forall_mem_cons.1 hmore
  have hvisible' := (List.forall_mem_cons.1 (List.forall_mem_append.1 hplaced').2).1
  obtain ⟨before, hbefore⟩ := exists_lines_clean indentUnit (Page.of earlier).lead hrows hothers
  have hslash {line : List Char} (h : isComment line = true) : line.head? = some '/' := by
    obtain ⟨body, rfl⟩ := exists_of_isComment h
    rfl
  rw [hbefore _ hvisible (hslash hcomment), hbefore _ hvisible' (hslash hcomment'),
    List.append_assoc, List.append_assoc, reachAlike_iff comment comment' hothers]
  have htaken (last : Option Char) (h : isGap last (start? (Page.of later).rows) = true) :
      adjust gapCleaned (joinAll (Page.of later).rows) ≠ [] :=
    fun hnil => joinAll_ne_nil_of_isGap hothers h (adjust_eq_nil_iff.1 hnil)
  exact sameButComment_iff before [[]] depth comment comment' (htaken _) (htaken _)

/-- Whatever a comment says instead, layout fails as it did, at the same line, or returns a text and
leaves as many contexts open.  For an indentation of spaces and tabs, the lines of the two texts are
the same but for the comment exactly if the two comments reach alike into the lines after them. -/
theorem comment_spares_code_iff {raw line body : List Char} {i : Nat} (indentUnit : List Char)
    (hline : (splitLines raw)[i]? = some line) (hcomment : isComment (trim line) = true)
    (hbody : '\n' ∉ body) :
    (∀ e, layout indentUnit raw = .error e ↔
      layout indentUnit (replaceComment i body raw) = .error e) ∧
    ∀ laid laid', layout indentUnit raw = .ok laid →
      layout indentUnit (replaceComment i body raw) = .ok laid' →
      laid'.openContexts = laid.openContexts ∧
      (IsIndentation indentUnit →
        (SameButComment indentUnit (trim line) (trim (withBody body line)) (splitLines laid.text)
            (splitLines laid'.text) ↔
          ReachAlike (trim line) (trim (withBody body line))
            (((splitLines raw).drop (i + 1)).map trim))) := by
  obtain ⟨hlines, hlines'⟩ := splitLines_replaceComment hline hbody
  have hcomment' := isComment_trim_withBody body line
  have hplaced := placeLines_comment hcomment hcomment' 1 [] ((splitLines raw).take i)
    ((splitLines raw).drop (i + 1))
  rw [← hlines, ← hlines'] at hplaced
  rcases hplaced with ⟨e, he, he'⟩ | ⟨earlier, depth, later, final, hok, hok', hlater⟩
  · rw [layout, layout, he, he']
    refine ⟨fun _ => Iff.rfl, fun laid laid' h => ?_⟩
    cases h
  · refine ⟨fun e => ?_, fun laid laid' h h' => ⟨?_, fun hunit => ?_⟩⟩
    · rw [layout, layout, hok, hok']
      refine iff_of_false (fun h => ?_) (fun h => ?_)
      · cases h
      · cases h
    · rw [layout, hok] at h
      rw [layout, hok'] at h'
      cases h
      cases h'
      rfl
    · rw [layout_eq hunit, hok] at h
      rw [layout_eq hunit, hok'] at h'
      cases h
      cases h'
      rw [← hlater]
      exact sameButComment_placed_iff hunit hcomment hcomment' (readable_of_splitLines hok)
        (readable_of_splitLines hok')

/-- A function with an indented comment, which has a gap between two brackets. -/
def notedCode : List Char := "f() \x7b\n\t// a ( )\nx;\n\x7d\n".toList

/-- A comment that ends with an opening brace does no harm where code comes next. -/
theorem notedCode_comment_spares_code :
    layout [' ', ' '] notedCode = .ok ⟨"f() \x7b\n  // a ()\n  x;\n\x7d\n".toList, 0⟩ ∧
    layout [' ', ' '] (replaceComment 1 " b \x7b".toList notedCode) =
      .ok ⟨"f() \x7b\n  // b \x7b\n  x;\n\x7d\n".toList, 0⟩ ∧
    SameButComment [' ', ' '] (trim "\t// a ( )".toList)
      (trim (withBody " b \x7b".toList "\t// a ( )".toList))
      (splitLines "f() \x7b\n  // a ()\n  x;\n\x7d\n".toList)
      (splitLines "f() \x7b\n  // b \x7b\n  x;\n\x7d\n".toList) ∧
    ReachAlike (trim "\t// a ( )".toList) (trim (withBody " b \x7b".toList "\t// a ( )".toList))
      (((splitLines notedCode).drop 2).map trim) := by
  have hlaid : layout [' ', ' '] notedCode =
      .ok ⟨"f() \x7b\n  // a ()\n  x;\n\x7d\n".toList, 0⟩ := by
    decide +kernel
  have hlaid' : layout [' ', ' '] (replaceComment 1 " b \x7b".toList notedCode) =
      .ok ⟨"f() \x7b\n  // b \x7b\n  x;\n\x7d\n".toList, 0⟩ := by
    decide +kernel
  have hsame : SameButComment [' ', ' '] (trim "\t// a ( )".toList)
      (trim (withBody " b \x7b".toList "\t// a ( )".toList))
      (splitLines "f() \x7b\n  // a ()\n  x;\n\x7d\n".toList)
      (splitLines "f() \x7b\n  // b \x7b\n  x;\n\x7d\n".toList) :=
    ⟨["f() \x7b".toList], 1, [], ["  x;".toList, "\x7d".toList, []], by decide +kernel,
      by decide +kernel⟩
  have hline : (splitLines notedCode)[1]? = some "\t// a ( )".toList := by decide +kernel
  have hall :=
    comment_spares_code_iff [' ', ' '] hline (by decide) (by decide : '\n' ∉ " b \x7b".toList)
  exact ⟨hlaid, hlaid', hsame, ((hall.2 _ _ hlaid hlaid').2 (by decide)).1 hsame⟩

/-- A comment that ends with an opening brace takes in the line that closes another one. -/
theorem comment_takes_closing_brace :
    layout [' ', ' '] "a \x7b\n// \x7b\n\x7d\n".toList = .ok ⟨"a \x7b\n  // \x7b\x7d\n".toList, 0⟩ ∧
    layout [' ', ' '] (replaceComment 1 " x".toList "a \x7b\n// \x7b\n\x7d\n".toList) =
      .ok ⟨"a \x7b\n  // x\n\x7d\n".toList, 0⟩ ∧
    ¬SameButComment [' ', ' '] "// \x7b".toList "// x".toList
      (splitLines "a \x7b\n  // \x7b\x7d\n".toList)
      (splitLines "a \x7b\n  // x\n\x7d\n".toList) := by
  refine ⟨by decide +kernel, by decide +kernel, fun h => ?_⟩
  exact absurd h.length_eq (by decide)

end DartRecords.Layout
