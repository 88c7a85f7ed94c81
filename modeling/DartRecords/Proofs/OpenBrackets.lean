import DartRecords.Proofs.StandingLines

/-!
# Layout fails where brackets do

The stack of layout holds more than brackets: chains and continuations are pushed and popped on
conditions of their own, and a closing bracket discards those above its opener.  None of this
matters for whether layout fails.  `scanLine` keeps a stack of opening brackets and nothing else,
and it is what becomes of placing a line when the stack is reduced to its brackets
(`map_brackets_place`).  A run of layout is then a run of the scan, and the two fail at the same
line (`placeLines_eq_error_iff`).
-/

namespace DartRecords.Layout

open Text (trim)

/-! ## A scan of brackets -/

/-- The opening bracket that a closing bracket belongs to. -/
def openingOf? (c : Char) : Option Char :=
  if c = '\x7d' then some '\x7b'
  else if c = ')' then some '('
  else if c = ']' then some '['
  else if c = '>' then some '<'
  else none

/-- Takes opening brackets off until the given one is off; none if it is not there. -/
def takeOff (opening : Char) : List Char → Option (List Char)
  | [] => none
  | top :: below => if top = opening then some below else takeOff opening below

/-- The opening bracket at the end of a line that is no comment. -/
def endOpening? (line : List Char) : Option Char :=
  if ['/', '/'] <+: line then none else line.getLast?.filter (· ∈ ['\x7b', '(', '[', '<'])

/-- The open brackets after a trimmed line, the innermost one first; none if the line starts with a
closing bracket that closes none of them. -/
def scanLine (opened line : List Char) : Option (List Char) :=
  let inner :=
    match line.head?.bind openingOf? with
    | some opening => takeOff opening opened
    | none => some opened
  inner.map fun inner => (endOpening? line).toList ++ inner

/-- From some open brackets on, the scan gets over all lines before the one that is reported, and
fails there.  Lines are counted from `n` on. -/
def ScanFailsAt (n : Nat) (opened : List Char) (lines : List (List Char)) (e : Unbalanced) : Prop :=
  ∃ before after inner, lines = before ++ e.line :: after ∧ e.lineNumber = before.length + n ∧
    before.foldlM scanLine opened = some inner ∧ scanLine inner e.line = none

theorem not_scanFailsAt_nil {n : Nat} {opened : List Char} {e : Unbalanced} :
    ¬ScanFailsAt n opened [] e := by
  rintro ⟨before, after, inner, hlines, -⟩
  simp at hlines

/-- The scan fails at the first line, or it gets over that one and fails at a later one. -/
theorem scanFailsAt_cons_iff {n : Nat} {opened line : List Char} {lines : List (List Char)}
    {e : Unbalanced} :
    ScanFailsAt n opened (line :: lines) e ↔
      (scanLine opened line = none ∧ e = ⟨n, line⟩) ∨
        ∃ inner, scanLine opened line = some inner ∧ ScanFailsAt (n + 1) inner lines e := by
  constructor
  · rintro ⟨before, after, inner, hlines, hnumber, hbefore, hfails⟩
    cases before with
    | nil =>
      obtain ⟨hline, -⟩ := List.cons.inj hlines
      cases hbefore
      refine .inl ⟨hline ▸ hfails, ?_⟩
      rw [List.length_nil, Nat.zero_add] at hnumber
      rw [← hnumber, hline]
    | cons first before =>
      obtain ⟨rfl, hrest⟩ := List.cons.inj hlines
      rw [List.foldlM_cons] at hbefore
      obtain ⟨middle, hfirst, hmore⟩ := Option.bind_eq_some_iff.1 hbefore
      refine .inr ⟨middle, hfirst, before, after, inner, hrest, ?_, hmore, hfails⟩
      rw [List.length_cons] at hnumber
      omega
  · rintro (⟨hfails, rfl⟩ | ⟨middle, hfirst, before, after, inner, rfl, hnumber, hmore, hfails⟩)
    · exact ⟨[], lines, opened, rfl, (Nat.zero_add n).symm, rfl, hfails⟩
    · refine ⟨line :: before, after, inner, rfl, ?_, ?_, hfails⟩
      · rw [List.length_cons]
        omega
      · rw [List.foldlM_cons]
        exact Option.bind_eq_some_iff.2 ⟨middle, hfirst, hmore⟩

/-- If the scan does not get to the end, then it fails at some line. -/
theorem exists_scanFailsAt_iff {n : Nat} {opened : List Char} {lines : List (List Char)} :
    (∃ e, ScanFailsAt n opened lines e) ↔ lines.foldlM scanLine opened = none := by
  induction lines generalizing n opened with
  | nil => exact iff_of_false (fun ⟨_, h⟩ => not_scanFailsAt_nil h) nofun
  | cons line lines ih =>
    simp only [scanFailsAt_cons_iff, List.foldlM_cons]
    cases scanLine opened line with
    | none => exact iff_of_true ⟨_, .inl ⟨rfl, rfl⟩⟩ rfl
    | some inner =>
      rw [Option.bind_eq_bind, Option.bind_some, ← @ih (n + 1) inner]
      simp

/-! ## The brackets of a stack -/

/-- The opening bracket that a marker stands for. -/
def Marker.opening? : Marker → Option Char
  | .brace => some '\x7b'
  | .paren => some '('
  | .bracket => some '['
  | .angle => some '<'
  | .continuation => none
  | .chain => none

/-- The stack without its chains and continuations. -/
def brackets (stack : Stack) : List Char := stack.filterMap Marker.opening?

theorem brackets_cons (m : Marker) (stack : Stack) :
    brackets (m :: stack) = m.opening?.toList ++ brackets stack := by
  cases m <;> rfl

theorem opener?_of_opening {m : Marker} {c : Char} (h : m.opening? = some c) :
    opener? c = some m := by
  cases m <;> cases h <;> rfl

/-- Closing brackets and the markers that they close. -/
theorem openingOf?_eq (c : Char) : openingOf? c = (closer? c).bind Marker.opening? := by
  unfold openingOf? closer?
  split_ifs <;> rfl

theorem opening?_of_closer {c : Char} {m : Marker} (h : closer? c = some m) :
    ∃ opening, m.opening? = some opening := by
  unfold closer? at h
  split_ifs at h <;> cases h <;> exact ⟨_, rfl⟩

/-- Opening brackets and the markers that they push. -/
theorem filter_opening (c : Char) :
    (some c).filter (· ∈ ['\x7b', '(', '[', '<']) = (opener? c).bind Marker.opening? := by
  unfold opener?
  split_ifs <;> simp_all [Marker.opening?]

/-! ## Layout and the scan -/

/-- Popping to a bracket discards the chains and continuations above it. -/
theorem map_brackets_close? {m : Marker} {opening : Char} (hm : m.opening? = some opening)
    (stack : Stack) :
    (close? m stack).map brackets = takeOff opening (brackets stack) := by
  induction stack with
  | nil => rfl
  | cons top below ih =>
    rw [close?, brackets_cons]
    by_cases htop : top = m
    · subst htop
      rw [if_pos rfl, hm, Option.map_some, Option.toList_some, List.singleton_append,
        takeOff, if_pos rfl]
    · rw [if_neg htop, ih]
      cases hopening : top.opening? with
      | none => rfl
      | some c =>
        have hc : c ≠ opening := by
          rintro rfl
          exact htop
            (Option.some.inj ((opener?_of_opening hopening).symm.trans (opener?_of_opening hm)))
        rw [Option.toList_some, List.singleton_append, takeOff, if_neg hc]

theorem map_brackets_enter (stack : Stack) (first : Char) :
    (enter stack first).map brackets =
      match openingOf? first with
      | some opening => takeOff opening (brackets stack)
      | none => some (brackets stack) := by
  rw [enter, openingOf?_eq]
  cases hcloser : closer? first with
  | some m =>
    obtain ⟨opening, hm⟩ := opening?_of_closer hcloser
    dsimp only [Option.bind_some]
    rw [hm]
    exact map_brackets_close? hm stack
  | none =>
    dsimp only [Option.bind_none]
    split <;> rfl

theorem brackets_leave (stack : Stack) (last : Char) :
    brackets (leave stack last) = ((opener? last).bind Marker.opening?).toList ++
      brackets stack := by
  unfold leave
  cases opener? last with
  | some m => exact brackets_cons m stack
  | none =>
    dsimp only [Option.bind_none]
    split
    · split <;> rfl
    · split
      · cases stack with
        | nil => rfl
        | cons top below => cases top <;> rfl
      · rfl

/-- Placing a line is a step of the scan. -/
theorem map_brackets_place (stack : Stack) (line : List Char) :
    (place stack line).map (fun placed => brackets placed.2) = scanLine (brackets stack) line := by
  cases line with
  | nil => rfl
  | cons first rest =>
    rw [scanLine, List.head?_cons, Option.bind_some, ← map_brackets_enter, place]
    cases enter stack first with
    | none => rfl
    | some inner =>
      dsimp only [Option.map_some]
      rw [endOpening?, List.getLast?_cons, filter_opening, isComment_eq]
      by_cases hcomment : ['/', '/'] <+: first :: rest
      · rw [if_pos hcomment, decide_eq_true hcomment, if_pos rfl]
        rfl
      · rw [if_neg hcomment, decide_eq_false hcomment, if_neg Bool.false_ne_true, brackets_leave]

/-- Placing lines fails at the first one, or gets over that one and fails at a later one. -/
theorem placeLines_cons_eq_error {n : Nat} {stack : Stack} {raw : List Char}
    {rest : List (List Char)} {e : Unbalanced} :
    placeLines n stack (raw :: rest) = .error e ↔
      (place stack (trim raw) = none ∧ e = ⟨n, trim raw⟩) ∨
        ∃ one after, place stack (trim raw) = some (one, after) ∧
          placeLines (n + 1) after rest = .error e := by
  rw [placeLines]
  constructor
  · intro h
    split at h
    · next hplace =>
      cases h
      exact .inl ⟨hplace, rfl⟩
    · next one after hplace =>
      split at h
      · next e' hrest =>
        cases h
        exact .inr ⟨one, after, hplace, hrest⟩
      · cases h
  · rintro (⟨hplace, rfl⟩ | ⟨one, after, hplace, hrest⟩)
    · rw [hplace]
    · rw [hplace]
      dsimp only
      rw [hrest]

/-- Placing lines fails at the line at which the scan does. -/
theorem placeLines_eq_error_iff {n : Nat} {stack : Stack} {lines : List (List Char)}
    {e : Unbalanced} :
    placeLines n stack lines = .error e ↔ ScanFailsAt n (brackets stack) (lines.map trim) e := by
  induction lines generalizing n stack with
  | nil => exact iff_of_false nofun not_scanFailsAt_nil
  | cons raw rest ih =>
    rw [List.map_cons, scanFailsAt_cons_iff, placeLines_cons_eq_error, ← map_brackets_place]
    cases place stack (trim raw) with
    | none => simp
    | some placed =>
      obtain ⟨one, after⟩ := placed
      simp [ih]

/-- For every indentation of one level, layout fails exactly if the scan of the trimmed lines does,
and it reports the line at which the scan fails, with its number counted from 1. -/
theorem layout_fails_where_brackets_do (indentUnit raw : List Char) :
    ((∃ e, layout indentUnit raw = .error e) ↔
      ((splitLines raw).map trim).foldlM scanLine [] = none) ∧
    ∀ e, layout indentUnit raw = .error e ↔ ScanFailsAt 1 [] ((splitLines raw).map trim) e := by
  have hline : ∀ e, layout indentUnit raw = .error e ↔
      ScanFailsAt 1 [] ((splitLines raw).map trim) e := by
    intro e
    have hplace := @placeLines_eq_error_iff 1 [] (splitLines raw) e
    change _ ↔ ScanFailsAt 1 [] _ e at hplace
    rw [← hplace, layout]
    split
    · next e' herror => rw [herror, Except.error.injEq, Except.error.injEq]
    · next lines final hok =>
      rw [hok]
      refine iff_of_false (fun h => ?_) (fun h => ?_)
      · cases h
      · cases h
  refine ⟨?_, hline⟩
  simp only [hline]
  exact exists_scanFailsAt_iff

end DartRecords.Layout
