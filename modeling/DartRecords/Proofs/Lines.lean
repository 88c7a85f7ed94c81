import DartRecords.Layout.Basic
import DartRecords.Proofs.CleanUp
import DartRecords.Proofs.Splitting

/-!
# Lines of raw code

Raw code is split at its newlines, every line is trimmed, and the lines are placed one after
another, each from the stack that the one before it has left.

* `splitLines_append_cons` splits a text at a newline, and `exists_line_of_part` finds the line
  that a part without a newline stands in.
* `part_trim` says that trimming keeps what starts and ends with characters that are not blank.
* `place_cases` and `placeLines_cons_eq_ok` say what placing one line and placing several can do.
* `placeLines_append` places two runs of lines one after the other, and `placed_of_mem` finds a
  line among those that have been placed.
* `part_layout` follows a part of a line through all of layout.
-/

namespace DartRecords.Layout

open Text (isBlank trim)

/-! ## Splitting -/

theorem splitLines_ne_nil (text : List Char) : splitLines text ≠ [] := by
  rw [splitLines_eq_splitOnP]
  exact List.splitOnP_ne_nil _ text

/-- The lines before a newline and those after it. -/
theorem splitLines_append_cons (before after : List Char) :
    splitLines (before ++ '\n' :: after) = splitLines before ++ splitLines after := by
  simp only [splitLines_eq_splitOnP]
  exact List.splitOnP_append_cons before after (decide_eq_true rfl)

theorem newline_not_mem_of_mem_splitLines {raw line : List Char} (h : line ∈ splitLines raw) :
    '\n' ∉ line := by
  intro hmem
  rw [splitLines_eq_splitOnP] at h
  simpa using (of_mem_splitOnP h hmem).2

/-- A text without a newline is one line. -/
theorem splitLines_of_not_mem {text : List Char} (h : '\n' ∉ text) : splitLines text = [text] := by
  rw [splitLines_eq_splitOnP]
  exact List.splitOnP_eq_singleton fun c hc => decide_eq_false fun heq => h (heq ▸ hc)

/-- A part without a newline stands in one line. -/
theorem exists_line_of_part {part text : List Char} (hpart : '\n' ∉ part) (h : part <:+: text) :
    ∃ line ∈ splitLines text, part <:+: line := by
  obtain ⟨before, after, rfl⟩ := h
  -- What follows the part up to the next newline belongs to its line, and so does what precedes it.
  have hfirst : ∀ head tail : List Char, '\n' ∉ head →
      ∃ line lines, splitLines (head ++ tail) = (head ++ line) :: lines := by
    intro head tail hhead
    induction head with
    | nil => exact List.exists_cons_of_ne_nil (splitLines_ne_nil tail)
    | cons c head ih =>
      simp only [List.mem_cons, not_or] at hhead
      obtain ⟨line, lines, hlines⟩ := ih hhead.2
      refine ⟨line, lines, ?_⟩
      rw [List.cons_append, splitLines, if_neg (Ne.symm hhead.1), hlines]
      rfl
  induction before with
  | nil =>
    obtain ⟨line, lines, hlines⟩ := hfirst part after hpart
    exact ⟨part ++ line, by simp [hlines], ⟨[], line, rfl⟩⟩
  | cons c before ih =>
    obtain ⟨line, hmem, hline⟩ := ih
    rw [List.cons_append, List.cons_append, splitLines]
    split
    · exact ⟨line, List.mem_cons_of_mem _ hmem, hline⟩
    · obtain ⟨first, lines, hlines⟩ := List.exists_cons_of_ne_nil
        (splitLines_ne_nil (before ++ part ++ after))
      rw [hlines] at hmem ⊢
      rcases List.mem_cons.1 hmem with rfl | hmem
      · exact ⟨c :: line, by simp, hline.trans ⟨[c], [], by simp⟩⟩
      · exact ⟨line, List.mem_cons_of_mem _ hmem, hline⟩

/-! ## Trimming -/

/-- Dropping blanks at the front stops before a character that is not blank. -/
theorem dropWhile_isBlank_append {before after : List Char} {c : Char} (hc : isBlank c = false) :
    ∃ kept, (before ++ c :: after).dropWhile isBlank = kept ++ c :: after := by
  induction before with
  | nil => exact ⟨[], by simp [hc]⟩
  | cons d before ih =>
    by_cases hd : isBlank d = true
    · obtain ⟨kept, hkept⟩ := ih
      exact ⟨kept, by rw [List.cons_append, List.dropWhile_cons_of_pos hd, hkept]⟩
    · exact ⟨d :: before, by rw [List.cons_append, List.dropWhile_cons_of_neg hd]⟩

/-- Trimming keeps what starts and ends with characters that are not blank. -/
theorem part_trim {first last : Char} {middle line : List Char} (hfirst : isBlank first = false)
    (hlast : isBlank last = false) (h : first :: middle ++ [last] <:+: line) :
    first :: middle ++ [last] <:+: trim line := by
  obtain ⟨before, after, rfl⟩ := h
  obtain ⟨kept, hkept⟩ : ∃ kept,
      (before ++ (first :: middle ++ [last]) ++ after).dropWhile isBlank =
      kept ++ first :: (middle ++ [last] ++ after) := by
    have := @dropWhile_isBlank_append before (middle ++ [last] ++ after) first hfirst
    simpa using this
  obtain ⟨kept', hkept'⟩ := @dropWhile_isBlank_append after.reverse
    (middle.reverse ++ first :: kept.reverse) last hlast
  refine ⟨kept, kept'.reverse, ?_⟩
  rw [trim, hkept]
  have hshape : (kept ++ first :: (middle ++ [last] ++ after)).reverse =
      after.reverse ++ last :: (middle.reverse ++ first :: kept.reverse) := by simp
  rw [hshape, hkept']
  simp

/-- A line that starts and ends with characters that are not blank is trimmed already. -/
theorem trim_eq_self {first last : Char} {line : List Char} (hhead : line.head? = some first)
    (hgetLast : line.getLast? = some last) (hfirst : isBlank first = false)
    (hlast : isBlank last = false) : trim line = line := by
  obtain ⟨rest, rfl⟩ : ∃ rest, line = first :: rest := by
    cases line with
    | nil => simp at hhead
    | cons c rest => exact ⟨rest, by simp_all⟩
  have hfront : (first :: rest).dropWhile isBlank = first :: rest := by simp [hfirst]
  obtain ⟨init, hinit⟩ := List.getLast?_eq_some_iff.1 hgetLast
  rw [trim, hfront, hinit, List.reverse_append]
  simp [hlast]

/-! ## Placing -/

/-- What placing a line can do. -/
theorem place_cases {stack after : Stack} {line : List Char} {placed : Placed}
    (h : place stack line = some (placed, after)) :
    (line = [] ∧ placed = .blank ∧ after = stack) ∨
    ∃ first rest inner, line = first :: rest ∧ enter stack first = some inner ∧
      placed = .line inner.length line ∧
      after = if isComment line then inner else leave inner (rest.getLast?.getD first) := by
  fun_cases place stack line with
  | case1 =>
    cases h
    exact .inl ⟨rfl, rfl, rfl⟩
  | case2 first rest hnone => simp [place, hnone] at h
  | case3 first rest inner hinner =>
    rw [place, hinner] at h
    cases h
    exact .inr ⟨first, rest, inner, rfl, hinner, rfl, rfl⟩

/-- Where lines are placed, the first one is, and the others from the stack that it leaves. -/
theorem placeLines_cons_eq_ok {n : Nat} {stack final : Stack} {raw : List Char}
    {rest : List (List Char)} {placed : List Placed} :
    placeLines n stack (raw :: rest) = .ok (placed, final) ↔
      ∃ one after others, place stack (trim raw) = some (one, after) ∧
        placeLines (n + 1) after rest = .ok (others, final) ∧ placed = one :: others := by
  rw [placeLines]
  constructor
  · intro h
    split at h
    · cases h
    · next one after hone =>
      split at h
      · cases h
      · next others last hothers =>
        cases h
        exact ⟨one, after, others, hone, hothers, rfl⟩
  · rintro ⟨one, after, others, hone, hothers, rfl⟩
    rw [hone]
    dsimp only
    rw [hothers]

theorem placeLines_append {n : Nat} {stack middle final : Stack} {first second : List (List Char)}
    {placed placed' : List Placed} (hfirst : placeLines n stack first = .ok (placed, middle))
    (hsecond : placeLines (n + first.length) middle second = .ok (placed', final)) :
    placeLines n stack (first ++ second) = .ok (placed ++ placed', final) := by
  induction first generalizing n stack placed with
  | nil =>
    cases hfirst
    exact hsecond
  | cons raw rest ih =>
    obtain ⟨one, after, others, hone, hothers, rfl⟩ := placeLines_cons_eq_ok.1 hfirst
    have hnumber : n + (raw :: rest).length = n + 1 + rest.length := by
      rw [List.length_cons]
      omega
    refine placeLines_cons_eq_ok.2 ⟨one, after, others ++ placed', hone, ?_, rfl⟩
    exact ih hothers (hnumber ▸ hsecond)

/-- Every line that is not blank is among those that have been placed. -/
theorem placed_of_mem {n : Nat} {stack final : Stack} {lines : List (List Char)}
    {placed : List Placed} (h : placeLines n stack lines = .ok (placed, final)) {line : List Char}
    (hmem : line ∈ lines) (hne : trim line ≠ []) : ∃ depth, .line depth (trim line) ∈ placed := by
  induction lines generalizing n stack placed with
  | nil => simp at hmem
  | cons raw rest ih =>
    obtain ⟨one, after, others, hone, hothers, rfl⟩ := placeLines_cons_eq_ok.1 h
    rcases List.mem_cons.1 hmem with rfl | hmem
    · rcases place_cases hone with ⟨hnil, -⟩ | ⟨first, rest, inner, -, -, rfl, -⟩
      · exact absurd hnil hne
      · exact ⟨inner.length, List.mem_cons_self⟩
    · obtain ⟨depth, hdepth⟩ := ih hothers hmem
      exact ⟨depth, List.mem_cons_of_mem _ hdepth⟩

/-- A placed line can be read in the indented text. -/
theorem infix_indent {indentUnit text : List Char} {lines : List Placed} {depth : Nat}
    (h : .line depth text ∈ lines) : text <:+: indent indentUnit lines := by
  obtain ⟨before, after, rfl⟩ := List.append_of_mem h
  refine ⟨indent indentUnit before ++ repeated indentUnit depth,
    '\n' :: indent indentUnit after, ?_⟩
  simp [indent, Placed.render]

theorem newline_not_mem_collapse {first last : Char} {middle : List Char}
    (h : '\n' ∉ first :: middle ++ [last]) : '\n' ∉ first :: collapse middle ++ [last] := by
  intro hmem
  refine h ?_
  simp only [List.cons_append, List.mem_cons, List.mem_append] at hmem ⊢
  exact hmem.imp_right (Or.imp_left (thinned_collapse middle).mem)

/-- Code that has been laid out still has every part of a line that starts and ends with neutral
characters, with its hollow brackets collapsed. -/
theorem part_layout {indentUnit raw middle : List Char} {first last : Char} {laid : Laid}
    (hlaid : layout indentUnit raw = .ok laid) (hfirst : IsNeutral first) (hlast : IsNeutral last)
    (hline : '\n' ∉ first :: middle ++ [last]) (h : first :: middle ++ [last] <:+: raw) :
    first :: collapse middle ++ [last] <:+: laid.text := by
  rw [layout] at hlaid
  split at hlaid
  · cases hlaid
  · next lines final hplaced =>
    obtain ⟨line, hmem, hpart⟩ := exists_line_of_part hline h
    have htrim := part_trim hfirst.1 hlast.1 hpart
    have hne : trim line ≠ [] := by
      intro hnil
      simp [hnil] at htrim
    obtain ⟨depth, hdepth⟩ := placed_of_mem hplaced hmem hne
    have hindent := htrim.trans (@infix_indent indentUnit _ _ _ hdepth)
    cases hlaid
    rw [cleanUp_eq]
    exact keepsLines_cleanLines (by simp) (newline_not_mem_collapse hline)
      (part_collapse hfirst hlast hindent)

end DartRecords.Layout
