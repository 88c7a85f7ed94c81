import DartRecords.Proofs.Lines
import DartRecords.Proofs.Rows
import Mathlib.Logic.Relation

/-!
# Lines that stand

Placed lines stand if placing them again puts each of them where it is (`Stand`).  Lines that have
been placed do so (`stand_of_placeLines`), and a text of such lines is indented to itself
(`layout_of_stand`).

The clean-ups of brackets take out one gap between two brackets after the other (`joins_joinEmpty`).
A gap is in one line, or it reaches from the end of a line to the start of the next one that is not
blank (`Stand.joins_cases`).  In the first case the ends of the line stay as they are
(`Stands.of_gap`).  In the second one the two lines become one: what the first one opens, the second
one closes, so that both are placed at one depth, and the stack is the same after them
(`Stands.of_lines`).  This is where a comment must not end with an opening bracket, since comments
open nothing.
-/

namespace DartRecords.Layout

open Relation (ReflTransGen)
open Text (isBlank trim)

/-! ## Lines that stand -/

/-- If the line is a comment, then it does not end with a bracket that the clean-ups join. -/
def EndsQuiet (line : List Char) : Prop :=
  isComment line = true → ∀ c ∈ line.getLast?, c ∉ ['\x7b', '(', '[']

/-- A placed line, between the stack before it and the stack after it. -/
inductive Stands : Stack → Placed → Stack → Prop where
  | blank (stack : Stack) : Stands stack .blank stack
  | line {stack inner : Stack} {line : List Char} {first last : Char} :
      Visible line → line.head? = some first → line.getLast? = some last →
      (isComment line = true → last ∉ ['\x7b', '(', '[']) → enter stack first = some inner →
      Stands stack (.line inner.length line) (if isComment line then inner else leave inner last)

/-- Placed lines one after another. -/
inductive Stand : Stack → List Placed → Stack → Prop where
  | nil (stack : Stack) : Stand stack [] stack
  | cons {stack between final : Stack} {one : Placed} {rest : List Placed} :
      Stands stack one between → Stand between rest final → Stand stack (one :: rest) final

section Stand

variable {stack final : Stack}

theorem stand_append_iff {placed others : List Placed} :
    Stand stack (placed ++ others) final ↔
      ∃ between, Stand stack placed between ∧ Stand between others final := by
  induction placed generalizing stack with
  | nil =>
    refine ⟨fun h => ⟨stack, .nil stack, h⟩, ?_⟩
    rintro ⟨between, h, hothers⟩
    cases h
    exact hothers
  | cons one rest ih =>
    constructor
    · intro h
      cases h with
      | cons hone hrest =>
        obtain ⟨between, hrest, hothers⟩ := ih.1 hrest
        exact ⟨between, .cons hone hrest, hothers⟩
    · rintro ⟨between, h, hothers⟩
      cases h with
      | cons hone hrest => exact .cons hone (ih.2 ⟨between, hrest, hothers⟩)

theorem Stand.visible {placed : List Placed} (h : Stand stack placed final) (depth : Nat)
    (line : List Char) (hmem : .line depth line ∈ placed) : Visible line := by
  induction h with
  | nil => cases hmem
  | cons hone _ ih =>
    rcases List.mem_cons.1 hmem with rfl | hmem
    · cases hone with
      | line hline => exact hline
    · exact ih hmem

/-- Blank lines leave the stack as it is. -/
theorem Stand.of_blanks {n : Nat} (h : Stand stack (List.replicate n .blank) final) :
    final = stack := by
  induction n with
  | zero =>
    cases h
    rfl
  | succ n ih =>
    cases h with
    | cons hone hrest =>
      cases hone
      exact ih hrest

end Stand

/-! ## From raw code to lines that stand -/

theorem visible_trim {raw : List Char} (hnewline : '\n' ∉ raw) (hne : trim raw ≠ []) :
    Visible (trim raw) := by
  have hfront : trim raw <+: raw.dropWhile isBlank := by
    rw [← List.reverse_suffix, trim, List.reverse_reverse]
    exact List.dropWhile_suffix _
  obtain ⟨first, rest, hline⟩ := List.exists_cons_of_ne_nil hne
  refine ⟨fun hmem => hnewline ((List.dropWhile_suffix _).mem (hfront.mem hmem)),
    ⟨first, by rw [hline]; rfl, ?_⟩, ?_⟩
  · obtain ⟨after, hafter⟩ := hfront
    have hhead : (raw.dropWhile isBlank).head? = some first := by
      rw [← hafter, hline]
      rfl
    simpa [hhead] using List.head?_dropWhile_not isBlank raw
  · have hlast : (trim raw).getLast? =
        ((raw.dropWhile isBlank).reverse.dropWhile isBlank).head? := by
      rw [trim, List.getLast?_reverse]
    obtain ⟨last, hsome⟩ := Option.isSome_iff_exists.1 (List.getLast?_isSome.2 hne)
    refine ⟨last, hsome, ?_⟩
    rw [hlast] at hsome
    simpa [hsome] using List.head?_dropWhile_not isBlank (raw.dropWhile isBlank).reverse

theorem stands_of_place {stack after : Stack} {raw : List Char} {placed : Placed}
    (hnewline : '\n' ∉ raw) (hquiet : EndsQuiet (trim raw))
    (h : place stack (trim raw) = some (placed, after)) :
    Stands stack placed after := by
  rcases place_cases h with ⟨-, rfl, rfl⟩ | ⟨first, rest, inner, hline, henter, rfl, rfl⟩
  · exact .blank _
  · have hvisible := visible_trim hnewline (by rw [hline]; exact List.cons_ne_nil first rest)
    rw [hline] at hvisible hquiet ⊢
    exact .line hvisible rfl List.getLast?_cons (fun hcomment =>
      hquiet hcomment _ List.getLast?_cons) henter

/-- Lines that have been placed stand. -/
theorem stand_of_placeLines {n : Nat} {stack final : Stack} {lines : List (List Char)}
    {placed : List Placed} (hlines : ∀ raw ∈ lines, '\n' ∉ raw ∧ EndsQuiet (trim raw))
    (h : placeLines n stack lines = .ok (placed, final)) : Stand stack placed final := by
  induction lines generalizing n stack placed with
  | nil =>
    cases h
    exact .nil _
  | cons raw rest ih =>
    obtain ⟨one, after, others, hone, hothers, rfl⟩ := placeLines_cons_eq_ok.1 h
    obtain ⟨hraw, hrest⟩ := List.forall_mem_cons.1 hlines
    exact .cons (stands_of_place hraw.1 hraw.2 hone) (ih hrest hothers)

/-! ## Placing lines that stand -/

/-- The text of a placed line, without its newline. -/
def Placed.indented (indentUnit : List Char) : Placed → List Char
  | .blank => []
  | .line depth text => repeated indentUnit depth ++ text

theorem indent_cons (indentUnit : List Char) (one : Placed) (rest : List Placed) :
    indent indentUnit (one :: rest) = one.indented indentUnit ++ '\n' ::
      indent indentUnit rest := by
  cases one with
  | blank => rfl
  | line depth text => simp [indent, Placed.render, Placed.indented]

section Again

variable {indentUnit : List Char} (hunit : IsIndentation indentUnit)
include hunit

theorem trim_indented {line : List Char} (hline : Visible line) (depth : Nat) :
    trim (repeated indentUnit depth ++ line) = line := by
  obtain ⟨first, hfirst, hfirstBlank⟩ := hline.first
  obtain ⟨last, hlast, hlastBlank⟩ := hline.last
  have hindent : ∀ c ∈ repeated indentUnit depth, isBlank c = true := (hunit.repeated depth).isBlank
  rw [trim, List.dropWhile_append_of_pos hindent]
  exact trim_eq_self hfirst hlast hfirstBlank hlastBlank

theorem place_of_stands {stack after : Stack} {placed : Placed} (h : Stands stack placed after) :
    place stack (trim (placed.indented indentUnit)) = some (placed, after) := by
  cases h with
  | blank => rfl
  | @line inner line first last hline hfirst hlast hquiet henter =>
    rw [Placed.indented, trim_indented hunit hline]
    obtain ⟨rest, rfl⟩ := List.head?_eq_some_iff.1 hfirst
    rw [List.getLast?_cons, Option.some.injEq] at hlast
    rw [place, henter, hlast]

theorem placeLines_of_stand {stack final : Stack} {placed : List Placed}
    (h : Stand stack placed final) (n : Nat) :
    placeLines n stack (placed.map (Placed.indented indentUnit)) = .ok (placed, final) := by
  induction h generalizing n with
  | nil => rfl
  | cons hone _ ih =>
    exact placeLines_cons_eq_ok.2 ⟨_, _, _, place_of_stands hunit hone, ih (n + 1), rfl⟩

theorem splitLines_indent {stack final : Stack} {placed : List Placed}
    (h : Stand stack placed final) :
    splitLines (indent indentUnit placed) = placed.map (Placed.indented indentUnit) ++ [[]] := by
  induction h with
  | nil => rfl
  | @cons _ _ _ one rest hone _ ih =>
    have hnewline : '\n' ∉ one.indented indentUnit := by
      cases hone with
      | blank => exact List.not_mem_nil
      | @line inner line _ _ hline =>
        exact @newline_not_mem_indented _ hunit ⟨inner.length, line, 0⟩ hline
    rw [indent_cons, splitLines_append_cons, splitLines_of_not_mem hnewline, ih]
    rfl

/-- A text of lines that stand is indented to itself, with a newline at its end. -/
theorem layout_of_stand {final : Stack} {placed : List Placed} (h : Stand [] placed final) :
    layout indentUnit (indent indentUnit placed) =
      .ok ⟨cleanUp (indent indentUnit placed ++ ['\n']), final.length⟩ := by
  have hplaced : placeLines 1 [] (splitLines (indent indentUnit placed)) =
      .ok (placed ++ [.blank], final) := by
    rw [splitLines_indent hunit h]
    exact placeLines_append (placeLines_of_stand hunit h 1) rfl
  have hindent : indent indentUnit (placed ++ [.blank]) = indent indentUnit placed ++ ['\n'] := by
    simp [indent, Placed.render]
  rw [layout, hplaced]
  dsimp only
  rw [hindent]

end Again

/-! ## Joining brackets, one gap at a time -/

/-- The second text is the first one without one gap between two brackets. -/
def Joins (opening closing : Char) (text joined : List Char) : Prop :=
  ∃ before gap after, (∀ c ∈ gap, isBlank c = true) ∧
    text = before ++ opening :: (gap ++ closing :: after) ∧
    joined = before ++ opening :: closing :: after

theorem joins_append_left {opening closing : Char} {text joined : List Char}
    (h : ReflTransGen (Joins opening closing) text joined) (start : List Char) :
    ReflTransGen (Joins opening closing) (start ++ text) (start ++ joined) := by
  refine h.lift (start ++ ·) ?_
  rintro _ _ ⟨before, gap, after, hgap, rfl, rfl⟩
  exact ⟨start ++ before, gap, after, hgap, (List.append_assoc ..).symm,
    (List.append_assoc ..).symm⟩

/-- The clean-up of brackets of one kind takes out their gaps. -/
theorem JoinRun.joins {opening closing : Char} {scan : BracketScan} {held text written : List Char}
    (h : JoinRun opening closing scan held text written) :
    ReflTransGen (Joins opening closing) (held ++ text) written := by
  induction h with
  | stop _ => rw [List.append_nil]
  | hold _ _ _ _ ih => simpa using ih
  | @close gap rest _ _ hgap _ _ ih =>
    exact .head ⟨[], gap, rest, hgap, rfl, rfl⟩ (joins_append_left ih [opening, closing])
  | reopen _ _ ih => exact joins_append_left ih _
  | @pass _ _ _ _ c _ _ _ _ _ ih => exact joins_append_left (joins_append_left ih [c]) _

theorem joins_joinEmpty (opening closing : Char) (text : List Char) :
    ReflTransGen (Joins opening closing) text (joinEmpty opening closing [] text) :=
  (joinRun_joinEmpty opening closing text).joins

/-! ## The lines on both sides of a gap -/

/-- The kinds of brackets that the clean-ups join. -/
inductive JoinedPair : Marker → Char → Char → Prop where
  | brace : JoinedPair .brace '\x7b' '\x7d'
  | paren : JoinedPair .paren '(' ')'
  | bracket : JoinedPair .bracket '[' ']'

namespace JoinedPair

variable {m : Marker} {opening closing : Char}

theorem isBracketPair (h : JoinedPair m opening closing) : IsBracketPair opening closing := by
  cases h with
  | brace => exact isBracketPair_curly
  | paren => exact isBracketPair_round
  | bracket => exact isBracketPair_square

theorem ne_slash (h : JoinedPair m opening closing) : opening ≠ '/' ∧ closing ≠ '/' := by
  cases h <;> decide

theorem opening_mem (h : JoinedPair m opening closing) : opening ∈ ['\x7b', '(', '['] := by
  cases h <;> decide

theorem leave_opening (h : JoinedPair m opening closing) (stack : Stack) :
    leave stack opening = m :: stack := by
  cases h <;> rfl

theorem enter_closing (h : JoinedPair m opening closing) (stack : Stack) :
    enter (m :: stack) closing = some stack := by
  cases h <;> rfl

end JoinedPair

theorem isComment_eq (line : List Char) : isComment line = decide (['/', '/'] <+: line) := by
  rw [isComment.eq_def]
  split
  · simp
  · next hno =>
    refine (decide_eq_false ?_).symm
    rintro ⟨rest, rfl⟩
    exact hno rest rfl

/-- Whether a line is a comment does not depend on what follows another character than a slash. -/
theorem isComment_append_cons {c : Char} (hc : c ≠ '/') (init rest rest' : List Char) :
    isComment (init ++ c :: rest) = isComment (init ++ c :: rest') := by
  simp only [isComment_eq]
  match init with
  | [] => simp [hc.symm]
  | [d] => simp [hc.symm]
  | d :: e :: init => simp

theorem Stands.line_cases {stack after : Stack} {depth : Nat} {line : List Char}
    (h : Stands stack (.line depth line) after) :
    ∃ inner first last, Visible line ∧ line.head? = some first ∧ line.getLast? = some last ∧
      (isComment line = true → last ∉ ['\x7b', '(', '[']) ∧ enter stack first = some inner ∧
      depth = inner.length ∧ after = if isComment line then inner else leave inner last := by
  cases h with
  | @line inner _ first last hline hfirst hlast hquiet henter =>
    exact ⟨inner, first, last, hline, hfirst, hlast, hquiet, henter, rfl, rfl⟩

/-- What a line starts with is seen up to one of its characters, and what it ends with from there
on. -/
theorem head?_append_cons (init : List Char) (c : Char) (rest rest' : List Char) :
    (init ++ c :: rest).head? = (init ++ c :: rest').head? := by
  cases init <;> rfl

section Gap

variable {m : Marker} {opening closing : Char} (hpair : JoinedPair m opening closing)
include hpair

/-- A line stays where it is if a gap in it is taken out. -/
theorem Stands.of_gap {stack after : Stack} {depth : Nat} {init gap rest : List Char}
    (h : Stands stack (.line depth (init ++ opening :: (gap ++ closing :: rest))) after) :
    Stands stack (.line depth (init ++ opening :: closing :: rest)) after := by
  obtain ⟨inner, first, last, hline, hfirst, hlast, hquiet, henter, rfl, rfl⟩ := h.line_cases
  rw [isComment_append_cons hpair.ne_slash.1 init _ (closing :: rest)] at hquiet ⊢
  have hend : (init ++ opening :: closing :: rest).getLast? = some last := by
    rw [← hlast, List.append_cons, List.getLast?_append_cons, ← List.cons_append,
      ← List.append_assoc, List.getLast?_append_cons]
  have hstart := head?_append_cons init opening (closing :: rest) (gap ++ closing :: rest)
  refine .line ⟨fun hmem => hline.newline ?_, ?_, ?_⟩ (hstart.trans hfirst) hend hquiet henter
  · simp only [List.mem_append, List.mem_cons] at hmem ⊢
    tauto
  · rw [hstart]
    exact hline.first
  · rw [hend, ← hlast]
    exact hline.last

/-- A line that ends with an opening bracket and the line with the closing one stand at one depth,
and can be written as one line there. -/
theorem Stands.of_lines {stack between after : Stack} {depth depth' : Nat} {init rest : List Char}
    (hone : Stands stack (.line depth (init ++ [opening])) between)
    (htwo : Stands between (.line depth' (closing :: rest)) after) :
    Stands stack (.line depth (init ++ opening :: closing :: rest)) after := by
  obtain ⟨inner, first, last, hline, hfirst, hlast, hquiet, henter, rfl, rfl⟩ := hone.line_cases
  obtain ⟨inner', first', last', hline', hfirst', hlast', -, henter', -, rfl⟩ := htwo.line_cases
  obtain rfl : opening = last := by simpa using hlast
  obtain rfl : closing = first' := by simpa using hfirst'
  have hcomment : isComment (init ++ [opening]) = false := by
    rw [← Bool.not_eq_true]
    exact fun hcomment => hquiet hcomment hpair.opening_mem
  have hcomment' : isComment (closing :: rest) = false := by
    rw [isComment_eq, decide_eq_false_iff_not]
    rintro ⟨tail, htail⟩
    exact hpair.ne_slash.2 (List.cons.inj htail).1.symm
  -- The second line closes what the first one has opened.
  rw [hcomment, if_neg Bool.false_ne_true, hpair.leave_opening, hpair.enter_closing] at henter'
  obtain rfl := Option.some.inj henter'
  have hjoined := isComment_append_cons hpair.ne_slash.1 init (closing :: rest) []
  rw [hcomment] at hjoined
  have hstart := head?_append_cons init opening (closing :: rest) []
  have hend : (init ++ opening :: closing :: rest).getLast? = some last' := by
    rw [← hlast', List.append_cons, List.getLast?_append_cons]
  have hstands := @Stands.line stack inner (init ++ opening :: closing :: rest) first last'
    ⟨fun hmem => ?_, ?_, ?_⟩ (hstart.trans hfirst) hend (fun h =>
      by rw [hjoined] at h; cases h) henter
  · rwa [hjoined, ← hcomment'] at hstands
  · rw [List.append_cons] at hmem
    exact (List.mem_append.1 hmem).elim hline.newline hline'.newline
  · rw [hstart]
    exact hline.first
  · rw [hend, ← hlast']
    exact hline'.last

end Gap

/-! ## Texts of lines that stand -/

/-- A character that is not blank comes after the blanks at the start. -/
theorem exists_of_blanks_append {blanks line before rest : List Char} {c : Char}
    (hblanks : ∀ d ∈ blanks, isBlank d = true) (hc : isBlank c = false)
    (h : blanks ++ line = before ++ c :: rest) :
    ∃ init, before = blanks ++ init ∧ line = init ++ c :: rest := by
  rcases List.append_eq_append_iff.1 h with ⟨init, hbefore, hline⟩ | ⟨cs, hshape, hcs⟩
  · exact ⟨init, hbefore, hline⟩
  · cases cs with
    | nil => exact ⟨[], by rw [hshape, List.append_nil, List.append_nil], hcs.symm⟩
    | cons d cs =>
      obtain ⟨rfl, -⟩ := List.cons.inj hcs
      have hblank := hblanks c (hshape ▸ List.mem_append_right _ List.mem_cons_self)
      rw [hblank] at hc
      cases hc

/-- Another character than a newline stands before the newline or after it. -/
theorem exists_of_append_newline {line after before rest : List Char} {c : Char} (hc : c ≠ '\n')
    (h : line ++ '\n' :: after = before ++ c :: rest) :
    (∃ tail, line = before ++ c :: tail ∧ rest = tail ++ '\n' :: after) ∨
      ∃ start, before = line ++ '\n' :: start ∧ after = start ++ c :: rest := by
  rcases List.append_eq_append_iff.1 h with ⟨start, hbefore, hafter⟩ | ⟨tail, hline, hrest⟩
  · cases start with
    | nil => exact absurd (List.cons.inj hafter).1.symm hc
    | cons d start =>
      obtain ⟨rfl, hstart⟩ := List.cons.inj hafter
      exact .inr ⟨start, hbefore, hstart⟩
  · cases tail with
    | nil => exact absurd (List.cons.inj hrest).1 hc
    | cons d tail =>
      obtain ⟨rfl, htail⟩ := List.cons.inj hrest
      exact .inl ⟨tail, hline, htail⟩

theorem Visible.tail_eq_nil {init tail : List Char} {c : Char} (h : Visible (init ++ c :: tail))
    (htail : ∀ d ∈ tail, isBlank d = true) : tail = [] := by
  cases tail with
  | nil => rfl
  | cons d tail =>
    obtain ⟨last, hlast, hblank⟩ := h.last
    rw [List.append_cons, List.getLast?_append_cons] at hlast
    rw [htail last (List.mem_of_getLast? hlast)] at hblank
    cases hblank

theorem Visible.init_eq_nil {init tail : List Char} {c : Char} (h : Visible (init ++ c :: tail))
    (hinit : ∀ d ∈ init, isBlank d = true) : init = [] := by
  cases init with
  | nil => rfl
  | cons d init =>
    obtain ⟨first, hfirst, hblank⟩ := h.first
    cases hfirst
    rw [hinit d List.mem_cons_self] at hblank
    cases hblank

section Texts

variable {indentUnit : List Char} (hunit : IsIndentation indentUnit)
include hunit

/-- Where a character that is not blank stands in an indented text. -/
theorem exists_line_of_indent {placed : List Placed} {before rest : List Char} {c : Char}
    (hc : isBlank c = false) (h : indent indentUnit placed = before ++ c :: rest) :
    ∃ earlier depth init tail later, placed = earlier ++ .line depth (init ++ c :: tail) :: later ∧
      before = indent indentUnit earlier ++ (repeated indentUnit depth ++ init) ∧
      rest = tail ++ '\n' :: indent indentUnit later := by
  induction placed generalizing before with
  | nil => cases before <;> cases h
  | cons one placed ih =>
    rw [indent_cons] at h
    rcases exists_of_append_newline (ne_newline hc) h
      with ⟨tail, hone, hrest⟩ | ⟨start, rfl, hplaced⟩
    · cases one with
      | blank => cases before <;> cases hone
      | line depth text =>
        obtain ⟨init, rfl, rfl⟩ := exists_of_blanks_append (hunit.repeated depth).isBlank hc hone
        exact ⟨[], depth, init, tail, placed, rfl, rfl, hrest⟩
    · obtain ⟨earlier, depth, init, tail, later, rfl, rfl, hrest⟩ := ih hplaced
      refine ⟨one :: earlier, depth, init, tail, later, rfl, ?_, hrest⟩
      rw [indent_cons, List.append_assoc, List.cons_append]

omit hunit in
/-- Lines whose text is blank are blank lines. -/
theorem eq_blanks_of_visible {placed : List Placed}
    (hplaced : ∀ depth text, .line depth text ∈ placed → Visible text)
    (hblank : ∀ c ∈ indent indentUnit placed, isBlank c = true) :
    placed = List.replicate placed.length .blank := by
  refine List.eq_replicate_of_mem fun one hone => ?_
  cases one with
  | blank => rfl
  | line depth text =>
    obtain ⟨c, hfirst, hc⟩ := (hplaced depth text hone).first
    have hmem := (@infix_indent indentUnit _ _ _ hone).mem (List.mem_of_head? hfirst)
    rw [hblank c hmem] at hc
    cases hc

/-- A gap between two brackets is in one line, or it reaches from the end of a line to the start of
the next one that is not blank. -/
theorem Stand.joins_cases {m : Marker} {opening closing : Char}
    (hpair : JoinedPair m opening closing) {stack final : Stack} {placed : List Placed}
    (h : Stand stack placed final) {joined : List Char}
    (hjoins : Joins opening closing (indent indentUnit placed) joined) :
    ∃ earlier depth init rest later,
      joined =
        indent indentUnit (earlier ++ .line depth (init ++ opening :: closing :: rest) :: later) ∧
      ((∃ gap,
        placed = earlier ++ .line depth (init ++ opening :: (gap ++ closing :: rest)) :: later) ∨
        ∃ n depth', placed = earlier ++ .line depth (init ++ [opening]) ::
          (List.replicate n .blank ++ .line depth' (closing :: rest) :: later)) := by
  obtain ⟨before, gap, after, hgap, htext, rfl⟩ := hjoins
  have hopening := hpair.isBracketPair.opening_not_blank
  have hclosing := hpair.isBracketPair.closing_not_blank
  obtain ⟨earlier, depth, init, tail, later, rfl, rfl, hrest⟩ :=
    exists_line_of_indent hunit hopening htext
  rcases exists_of_append_newline (ne_newline hclosing) hrest.symm with
    ⟨rest, rfl, rfl⟩ | ⟨start, rfl, hlater⟩
  · refine ⟨earlier, depth, init, rest, later, ?_, .inl ⟨gap, rfl⟩⟩
    simp [indent, Placed.render]
  · -- What stands between the brackets is blank, so the one ends its line and the other starts its
    -- own.
    obtain ⟨blanks, depth', init', rest, later', rfl, rfl, rfl⟩ :=
      exists_line_of_indent hunit hclosing hlater
    simp only [List.forall_mem_append, List.forall_mem_cons] at hgap
    obtain ⟨htail, -, hblanks, -, hinit'⟩ := hgap
    have hone : Visible (init ++ opening :: tail) := h.visible depth _ (by simp)
    have htwo : Visible (init' ++ closing :: rest) := h.visible depth' _ (by simp)
    have hshape : blanks = List.replicate blanks.length .blank :=
      eq_blanks_of_visible (fun d text hmem => h.visible d text (by simp [hmem])) hblanks
    obtain rfl := hone.tail_eq_nil htail
    obtain rfl := htwo.init_eq_nil hinit'
    refine ⟨earlier, depth, init, rest, later', ?_, .inr ⟨blanks.length, depth', ?_⟩⟩
    · simp [indent, Placed.render]
    · rw [← hshape]
      rfl

end Texts

end DartRecords.Layout
