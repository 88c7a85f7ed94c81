import DartRecords.Proofs.Lines
import Mathlib.Data.List.TakeWhile

/-!
# From one stack to another

`Lays before text after` says that layout gets over a text from one stack to another one, whatever
follows the text.  Texts that are laid out one after another are put together by `Lays.append`, so
the effect of long code is found from the effects of its lines.

Only the two ends of a line matter.  `Flat` texts have no newline, `Inline` ones also start with a
character that neither closes nor opens anything, `Trailing` ones end with such a character, and
`Solid` ones do both.
An ending is what comes last in a line, with the newlines after it (`lineEnd?`).

* `lays_line` is about any line that is no comment, `lays_inline` about one that starts quietly,
  `lays_closing` about one that closes the innermost bracket, and `lays_comment` about a comment.
* A text is `Steady` if it leaves a stack of brackets as it is.  `lays_join_block` is about the
  lines between two that open and close a bracket.
* `layout_of_lays` gets from here to the result of layout.
-/

namespace DartRecords.Layout

open Text (isBlank trim)

/-! ## Stacks after lines -/

/-- The stack after lines have been placed one after another; none if one of them closes a bracket
that is not open. -/
def stackAfter (stack : Stack) : List (List Char) → Option Stack
  | [] => some stack
  | raw :: rest =>
    match place stack (trim raw) with
    | none => none
    | some (_, after) => stackAfter after rest

theorem placeLines_of_stackAfter {stack final : Stack} {lines : List (List Char)}
    (h : stackAfter stack lines = some final) (n : Nat) :
    ∃ placed, placeLines n stack lines = .ok (placed, final) := by
  induction lines generalizing n stack with
  | nil =>
    cases h
    exact ⟨[], rfl⟩
  | cons raw rest ih =>
    rw [stackAfter] at h
    split at h
    · cases h
    · next one after hplace =>
      obtain ⟨placed, hplaced⟩ := ih h (n + 1)
      exact ⟨one :: placed, placeLines_cons_eq_ok.2 ⟨one, after, placed, hplace, hplaced, rfl⟩⟩

theorem stackAfter_blank (stack : Stack) (lines : List (List Char)) :
    stackAfter stack ([] :: lines) = stackAfter stack lines := rfl

/-- Empty lines change nothing. -/
theorem stackAfter_newlines {newlines : List Char} (h : ∀ c ∈ newlines, c = '\n') (stack : Stack)
    (rest : List Char) :
    stackAfter stack (splitLines (newlines ++ rest)) = stackAfter stack (splitLines rest) := by
  induction newlines with
  | nil => rfl
  | cons c newlines ih =>
    have hc : c = '\n' := h c List.mem_cons_self
    subst hc
    have hsplit := splitLines_append_cons [] (newlines ++ rest)
    rw [List.nil_append] at hsplit
    rw [List.cons_append, hsplit]
    exact ih fun c hc => h c (List.mem_cons_of_mem _ hc)

/-- A trimmed line that is no comment is placed by its first and its last character. -/
theorem stackAfter_line {stack inner : Stack} {line : List Char} {first last : Char}
    (hhead : line.head? = some first) (hgetLast : line.getLast? = some last)
    (hfirst : isBlank first = false) (hlast : isBlank last = false) (hslash : first ≠ '/')
    (henter : enter stack first = some inner) (lines : List (List Char)) :
    stackAfter stack (line :: lines) = stackAfter (leave inner last) lines := by
  rw [stackAfter, trim_eq_self hhead hgetLast hfirst hlast]
  obtain ⟨rest, rfl⟩ : ∃ rest, line = first :: rest := List.head?_eq_some_iff.1 hhead
  rw [List.getLast?_cons, Option.some.injEq] at hgetLast
  have hcomment : isComment (first :: rest) = false := by
    rw [isComment.eq_2]
    intro rest' hrest
    exact hslash (List.cons.inj hrest).1
  simp only [place, henter, hcomment, hgetLast]
  rfl

/-! ## Texts that keep to a line -/

/-- The text has no newline. -/
def Flat (text : String) : Prop := '\n' ∉ text.toList

/-- The character at the start of a line closes nothing, and opens neither a chain nor a comment. -/
def startsQuietly (c : Char) : Bool :=
  !isBlank c && (closer? c).isNone && c ≠ '.' && c ≠ '/'

/-- The character at the end of a line opens nothing and ends nothing. -/
def endsQuietly (c : Char) : Bool :=
  !isBlank c && (opener? c).isNone && c ≠ ':' && c ≠ '=' && c ≠ ';' && c ≠ ','

/-- The text has no newline and starts quietly. -/
structure Inline (text : String) : Prop where
  flat : Flat text
  first : text.toList.head?.any startsQuietly = true

/-- The text has no newline and ends quietly. -/
structure Trailing (text : String) : Prop where
  flat : Flat text
  last : text.toList.getLast?.any endsQuietly = true

/-- The text has no newline, and starts and ends quietly. -/
structure Solid (text : String) : Prop extends Inline text, Trailing text

instance (text : String) : Decidable (Flat text) := inferInstanceAs (Decidable (_ ∉ _))

instance (text : String) : Decidable (Inline text) :=
  decidable_of_iff (Flat text ∧ text.toList.head?.any startsQuietly = true)
    ⟨fun h => ⟨h.1, h.2⟩, fun h => ⟨h.1, h.2⟩⟩

instance (text : String) : Decidable (Trailing text) :=
  decidable_of_iff (Flat text ∧ text.toList.getLast?.any endsQuietly = true)
    ⟨fun h => ⟨h.1, h.2⟩, fun h => ⟨h.1, h.2⟩⟩

instance (text : String) : Decidable (Solid text) :=
  decidable_of_iff (Inline text ∧ Trailing text)
    ⟨fun h => ⟨h.1, h.2.last⟩, fun h => ⟨h.toInline, h.toTrailing⟩⟩

theorem Flat.append {first second : String} (hfirst : Flat first) (hsecond : Flat second) :
    Flat (first ++ second) := by
  intro hmem
  rw [String.toList_append, List.mem_append] at hmem
  exact hmem.elim hfirst hsecond

theorem flat_intercalate {separator : String} (hseparator : Flat separator) {texts : List String}
    (htexts : ∀ text ∈ texts, Flat text) : Flat (separator.intercalate texts) := by
  induction texts with
  | nil => exact List.not_mem_nil
  | cons text rest ih =>
    have htext := htexts text List.mem_cons_self
    cases rest with
    | nil => exact htext
    | cons next rest =>
      rw [String.intercalate_cons_cons]
      refine (htext.append hseparator).append (ih fun other hother => htexts other ?_)
      exact List.mem_cons_of_mem _ hother

/-- What follows does not change how a text starts. -/
theorem Inline.first_append {text : String} (h : Inline text) (ending : String) :
    (text ++ ending).toList.head?.any startsQuietly = true := by
  obtain ⟨c, hc, hquiet⟩ := (Option.any_eq_true _ _).1 h.first
  rw [String.toList_append, List.head?_append, hc]
  exact hquiet

theorem Inline.append {first second : String} (hfirst : Inline first) (hsecond : Flat second) :
    Inline (first ++ second) :=
  ⟨hfirst.flat.append hsecond, hfirst.first_append second⟩

theorem Inline.append_trailing {first second : String} (hfirst : Inline first)
    (hsecond : Trailing second) : Solid (first ++ second) where
  toInline := hfirst.append hsecond.flat
  last := by
    obtain ⟨c, hc, hquiet⟩ := (Option.any_eq_true _ _).1 hsecond.last
    rw [String.toList_append, List.getLast?_append, hc]
    exact hquiet

/-- The text is what remains of a line, with one newline or several after it. -/
def endsLine (ending : String) : Bool :=
  (ending.toList.dropWhile (· ≠ '\n')).all (· = '\n') && ending.toList.contains '\n'

/-- The last character of the line that an ending finishes, if it is not blank. -/
def lineEnd? (ending : String) : Option Char :=
  if endsLine ending then (ending.toList.takeWhile (· ≠ '\n')).getLast?.filter
    (!isBlank ·) else none

theorem toList_of_endsLine {ending : String} (h : endsLine ending = true) :
    ∃ newlines, ending.toList = ending.toList.takeWhile (· ≠ '\n') ++ '\n' :: newlines ∧
      ∀ c ∈ newlines, c = '\n' := by
  simp only [endsLine, Bool.and_eq_true, List.contains_iff_mem] at h
  have hsplit := @List.takeWhile_append_dropWhile _ (· ≠ '\n') ending.toList
  cases hrest : ending.toList.dropWhile (· ≠ '\n') with
  | nil =>
    rw [hrest, List.append_nil] at hsplit
    have hmem := h.2
    rw [← hsplit] at hmem
    simpa using List.mem_takeWhile_imp hmem
  | cons c newlines =>
    rw [hrest] at hsplit h
    simp only [List.all_cons, Bool.and_eq_true, decide_eq_true_eq, List.all_eq_true] at h
    obtain ⟨⟨rfl, hnewlines⟩, -⟩ := h
    exact ⟨newlines, hsplit.symm, hnewlines⟩

theorem newline_not_mem_takeWhile (text : List Char) : '\n' ∉ text.takeWhile (· ≠ '\n') := by
  intro hmem
  simpa using List.mem_takeWhile_imp hmem

theorem lineEnd?_eq_some {ending : String} {last : Char} (h : lineEnd? ending = some last) :
    endsLine ending = true ∧ (ending.toList.takeWhile (· ≠ '\n')).getLast? = some last ∧
      isBlank last = false := by
  rw [lineEnd?] at h
  split at h
  · next hends =>
    obtain ⟨hlast, hblank⟩ := Option.filter_eq_some_iff.1 h
    exact ⟨hends, hlast, by simpa using hblank⟩
  · cases h

/-! What stands in a line before its end does not change the end. -/

section Append

variable {text ending : String}

theorem forall_ne_newline (h : Flat text) : ∀ c ∈ text.toList, decide (c ≠ '\n') = true :=
  fun _ hc => decide_eq_true fun heq => h (heq ▸ hc)

theorem endsLine_append (hflat : Flat text) (h : endsLine ending = true) :
    endsLine (text ++ ending) = true := by
  simp only [endsLine, Bool.and_eq_true, List.contains_iff_mem] at h ⊢
  rw [String.toList_append, List.dropWhile_append_of_pos (forall_ne_newline hflat)]
  exact ⟨h.1, List.mem_append_right _ h.2⟩

theorem lineEnd?_append {last : Char} (hflat : Flat text) (h : lineEnd? ending = some last) :
    lineEnd? (text ++ ending) = some last := by
  obtain ⟨hends, hlast, hblank⟩ := lineEnd?_eq_some h
  rw [lineEnd?, if_pos (endsLine_append hflat hends), String.toList_append,
    List.takeWhile_append_of_pos (forall_ne_newline hflat), List.getLast?_append, hlast]
  simp [hblank]

/-- The newline alone ends a line whose last character is that of the text before it. -/
theorem lineEnd?_newline {last : Char} (hflat : Flat text)
    (hlast : text.toList.getLast? = some last) (hblank : isBlank last = false) :
    lineEnd? (text ++ "\n") = some last := by
  rw [lineEnd?, if_pos (endsLine_append hflat (by decide)), String.toList_append,
    List.takeWhile_append_of_pos (forall_ne_newline hflat), List.getLast?_append, hlast]
  simp [hblank]

end Append

/-! ## From one stack to another -/

/-- Layout gets from one stack to another over a text, whatever follows it. -/
def Lays (before : Stack) (text : String) (after : Stack) : Prop :=
  ∀ rest, stackAfter before (splitLines (text.toList ++ rest)) = stackAfter after (splitLines rest)

theorem Lays.nil (stack : Stack) : Lays stack "" stack := fun _ => rfl

theorem Lays.append {before middle after : Stack} {first second : String}
    (hfirst : Lays before first middle) (hsecond : Lays middle second after) :
    Lays before (first ++ second) after := by
  intro rest
  rw [String.toList_append, List.append_assoc, hfirst, hsecond]

/-- One line that is no comment, with the newlines after it. -/
theorem lays_line {stack inner : Stack} {text : String} {first last : Char}
    (hhead : text.toList.head? = some first) (hfirst : isBlank first = false)
    (hslash : first ≠ '/') (henter : enter stack first = some inner)
    (hend : lineEnd? text = some last) : Lays stack text (leave inner last) := by
  obtain ⟨hends, hgetLast, hlast⟩ := lineEnd?_eq_some hend
  obtain ⟨newlines, htext, hnewlines⟩ := toList_of_endsLine hends
  have hline := newline_not_mem_takeWhile text.toList
  generalize text.toList.takeWhile (· ≠ '\n') = line at htext hgetLast hline
  intro rest
  have hhead' : line.head? = some first := by
    cases line with
    | nil => cases hgetLast
    | cons c line => simpa [htext] using hhead
  rw [htext, List.append_assoc, List.cons_append, splitLines_append_cons,
    splitLines_of_not_mem hline, List.singleton_append,
    stackAfter_line hhead' hgetLast hfirst hlast hslash henter, stackAfter_newlines hnewlines]

theorem enter_of_startsQuietly {c : Char} (h : startsQuietly c = true) (stack : Stack) :
    isBlank c = false ∧ c ≠ '/' ∧ enter stack c = some stack := by
  simp only [startsQuietly, Bool.and_eq_true, Bool.not_eq_true', Option.isNone_iff_eq_none,
    decide_eq_true_eq] at h
  obtain ⟨⟨⟨hblank, hcloser⟩, hpoint⟩, hslash⟩ := h
  refine ⟨hblank, hslash, ?_⟩
  simp [enter, hcloser, hpoint]

/-- A line that starts quietly. -/
theorem lays_quiet {text : String} {last : Char}
    (hfirst : text.toList.head?.any startsQuietly = true) (hend : lineEnd? text = some last)
    (stack : Stack) : Lays stack text (leave stack last) := by
  obtain ⟨first, hhead, hquiet⟩ := (Option.any_eq_true _ _).1 hfirst
  obtain ⟨hblank, hslash, henter⟩ := enter_of_startsQuietly hquiet stack
  exact lays_line hhead hblank hslash henter hend

theorem lays_inline {text ending : String} {last : Char} (htext : Inline text)
    (hend : lineEnd? ending = some last) (stack : Stack) :
    Lays stack (text ++ ending) (leave stack last) :=
  lays_quiet (htext.first_append ending) (lineEnd?_append htext.flat hend) stack

/-- A line that closes the innermost bracket. -/
theorem lays_closing {marker : Marker} {text : String} {first last : Char}
    (hhead : text.toList.head? = some first) (hfirst : isBlank first = false)
    (hcloser : closer? first = some marker) (hend : lineEnd? text = some last) (stack : Stack) :
    Lays (marker :: stack) text (leave stack last) := by
  refine lays_line hhead hfirst ?_ ?_ hend
  · rintro rfl
    cases hcloser
  · simp [enter, hcloser, close?]

/-- A comment, with the newlines after it. -/
theorem lays_comment {text : String} (hcomment : ['/', '/'] <+: text.toList)
    (hends : endsLine text = true) (stack : Stack) : Lays stack text stack := by
  obtain ⟨newlines, htext, hnewlines⟩ := toList_of_endsLine hends
  have hline := newline_not_mem_takeWhile text.toList
  generalize text.toList.takeWhile (· ≠ '\n') = line at htext hline
  obtain ⟨body, hbody⟩ : ∃ body, line = '/' :: '/' :: body := by
    rw [htext] at hcomment
    match line with
    | [] => simp at hcomment
    | [c] => simp at hcomment
    | c :: d :: body =>
      simp only [List.cons_append, List.cons_prefix_cons] at hcomment
      exact ⟨body, by rw [← hcomment.1, ← hcomment.2.1]⟩
  -- The line still starts with two slashes, whatever trimming removes at its end.
  obtain ⟨kept, hkept⟩ := @dropWhile_isBlank_append body.reverse ['/'] '/' rfl
  have htrim : trim line = '/' :: '/' :: kept.reverse := by
    have hfront : line.dropWhile isBlank = line := by
      rw [hbody]
      rfl
    rw [trim, hfront, hbody, List.reverse_cons, List.reverse_cons, List.append_assoc,
      List.singleton_append, hkept]
    simp
  intro rest
  rw [htext, List.append_assoc, List.cons_append, splitLines_append_cons,
    splitLines_of_not_mem hline, List.singleton_append, stackAfter, htrim]
  exact stackAfter_newlines hnewlines stack rest

theorem lays_newline (stack : Stack) : Lays stack "\n" stack :=
  fun rest => stackAfter_newlines (by simp) stack rest

/-! ## Texts that change nothing -/

/-- The innermost context is a bracket, if there is any. -/
def Settled (stack : Stack) : Prop :=
  stack.head? ≠ some .chain ∧ stack.head? ≠ some .continuation

/-- The text leaves every settled stack as it is. -/
def Steady (text : String) : Prop := ∀ stack, Settled stack → Lays stack text stack

/-- The character ends a line that changes no settled stack. -/
def endsSteadily (c : Char) : Bool := c = ';' || c = ',' || endsQuietly c

theorem leave_of_endsQuietly {c : Char} (h : endsQuietly c = true) (stack : Stack) :
    leave stack c = stack := by
  simp only [endsQuietly, Bool.and_eq_true, Option.isNone_iff_eq_none, decide_eq_true_eq] at h
  obtain ⟨⟨⟨⟨⟨-, hopener⟩, hcolon⟩, hequals⟩, hsemicolon⟩, hcomma⟩ := h
  simp [leave, hopener, hcolon, hequals, hsemicolon, hcomma]

theorem leave_of_endsSteadily {c : Char} {stack : Stack} (h : endsSteadily c = true)
    (hstack : Settled stack) : leave stack c = stack := by
  have hend : ∀ c, c = ';' ∨ c = ',' → leave stack c = stack := by
    obtain ⟨hchain, hcontinuation⟩ := hstack
    rintro c (rfl | rfl)
    all_goals
      match stack with
      | [] => rfl
      | .chain :: rest => exact absurd rfl hchain
      | .continuation :: rest => exact absurd rfl hcontinuation
      | .brace :: rest => rfl
      | .paren :: rest => rfl
      | .bracket :: rest => rfl
      | .angle :: rest => rfl
  simp only [endsSteadily, Bool.or_eq_true, decide_eq_true_eq] at h
  rcases h with h | h
  · exact hend c h
  · exact leave_of_endsQuietly h stack

theorem Steady.append {first second : String} (hfirst : Steady first) (hsecond : Steady second) :
    Steady (first ++ second) :=
  fun stack hstack => (hfirst stack hstack).append (hsecond stack hstack)

/-- A literal line. -/
theorem steady_literal {text : String} (hfirst : text.toList.head?.any startsQuietly = true)
    (hend : (lineEnd? text).any endsSteadily = true) : Steady text := by
  obtain ⟨last, hlast, hsteady⟩ := (Option.any_eq_true _ _).1 hend
  intro stack hstack
  have h := lays_quiet hfirst hlast stack
  rwa [leave_of_endsSteadily hsteady hstack] at h

/-- A line that ends quietly. -/
theorem steady_solid {text : String} (h : Solid text) : Steady (text ++ "\n") := by
  obtain ⟨last, hlast, hquiet⟩ := (Option.any_eq_true _ _).1 h.last
  have hblank : isBlank last = false := by
    simp only [endsQuietly, Bool.and_eq_true, Bool.not_eq_true'] at hquiet
    exact hquiet.1.1.1.1.1
  refine steady_literal (h.first_append "\n") ?_
  rw [lineEnd?_newline h.flat hlast hblank]
  simp [endsSteadily, hquiet]

theorem steady_newline : Steady "\n" := fun stack _ => lays_newline stack

/-- Of the text and of whatever ends its last line, only that end matters.  The text may have
several lines. -/
def Contained (text : String) : Prop :=
  ∀ stack ending last, lineEnd? ending = some last → Lays stack (text ++ ending) (leave stack last)

theorem Inline.contained {text : String} (h : Inline text) : Contained text :=
  fun stack _ _ hend => lays_inline h hend stack

theorem Contained.steady {text ending : String} (h : Contained text)
    (hend : (lineEnd? ending).any endsSteadily = true) : Steady (text ++ ending) := by
  obtain ⟨last, hlast, hsteady⟩ := (Option.any_eq_true _ _).1 hend
  intro stack hstack
  have hlays := h stack ending last hlast
  rwa [leave_of_endsSteadily hsteady hstack] at hlays

theorem steady_inline {text ending : String} (htext : Inline text)
    (hend : (lineEnd? ending).any endsSteadily = true) : Steady (text ++ ending) :=
  htext.contained.steady hend

/-! ## Brackets over several lines -/

/-- The text ends by opening a bracket. -/
def Opens (marker : Marker) (text : String) : Prop := ∀ stack, Lays stack text (marker :: stack)

/-- The text closes the innermost bracket, and changes nothing else. -/
def Closes (marker : Marker) (text : String) : Prop :=
  ∀ stack, Settled stack → Lays (marker :: stack) text stack

/-- The marker stands for a bracket. -/
def Marker.isBracket (marker : Marker) : Bool := marker ≠ .chain && marker ≠ .continuation

theorem settled_cons {marker : Marker} (h : marker.isBracket = true) (stack : Stack) :
    Settled (marker :: stack) := by
  simpa [Marker.isBracket, Settled] using h

theorem settled_nil : Settled [] := ⟨by simp, by simp⟩

theorem leave_of_opener {marker : Marker} {c : Char} (h : opener? c = some marker) (stack : Stack) :
    leave stack c = marker :: stack := by
  simp [leave, h]

theorem opens_inline {marker : Marker} {text ending : String} {last : Char} (htext : Inline text)
    (hend : lineEnd? ending = some last) (hopener : opener? last = some marker) :
    Opens marker (text ++ ending) := by
  intro stack
  have h := lays_inline htext hend stack
  rwa [leave_of_opener hopener] at h

theorem opens_literal {marker : Marker} {text : String} {last : Char}
    (hfirst : text.toList.head?.any startsQuietly = true) (hend : lineEnd? text = some last)
    (hopener : opener? last = some marker) : Opens marker text := by
  intro stack
  have h := lays_quiet hfirst hend stack
  rwa [leave_of_opener hopener] at h

theorem closes_literal {marker : Marker} {text : String} {first : Char}
    (hhead : text.toList.head? = some first) (hcloser : closer? first = some marker)
    (hfirst : isBlank first = false) (hend : (lineEnd? text).any endsSteadily = true) :
    Closes marker text := by
  obtain ⟨last, hlast, hsteady⟩ := (Option.any_eq_true _ _).1 hend
  intro stack hstack
  have h := lays_closing hhead hfirst hcloser hlast stack
  rwa [leave_of_endsSteadily hsteady hstack] at h

/-! ## Lists of fragments -/

theorem lays_join_append {before middle after : Stack} {first second : List String}
    (hfirst : Lays before (String.join first) middle)
    (hsecond : Lays middle (String.join second) after) :
    Lays before (String.join (first ++ second)) after := by
  rw [String.join_append]
  exact hfirst.append hsecond

theorem lays_join_cons {before middle after : Stack} {fragment : String} {fragments : List String}
    (hfirst : Lays before fragment middle) (hrest : Lays middle (String.join fragments) after) :
    Lays before (String.join (fragment :: fragments)) after := by
  rw [String.join_cons]
  exact hfirst.append hrest

theorem steady_join {fragments : List String} (h : ∀ fragment ∈ fragments, Steady fragment) :
    Steady (String.join fragments) := by
  intro stack hstack
  induction fragments with
  | nil => exact Lays.nil stack
  | cons fragment fragments ih =>
    exact lays_join_cons (h fragment List.mem_cons_self stack hstack)
      (ih fun other hother => h other (List.mem_cons_of_mem _ hother))

/-- Fragments between an opening and a closing line. -/
theorem lays_join_block {marker : Marker} {stack after : Stack} {opening closing : String}
    {body rest : List String} (hmarker : marker.isBracket = true) (hopening : Opens marker opening)
    (hbody : Steady (String.join body)) (hclosing : Closes marker closing) (hstack : Settled stack)
    (hrest : Lays stack (String.join rest) after) :
    Lays stack (String.join (opening :: (body ++ closing :: rest))) after := by
  refine lays_join_cons (hopening stack) ?_
  refine lays_join_append (hbody _ (settled_cons hmarker stack)) ?_
  exact lays_join_cons (hclosing stack hstack) hrest

/-! ## Declarations -/

/-- Apart from newlines, the text starts quietly. -/
def Begins (text : String) : Prop :=
  ∃ newlines c rest, text.toList = newlines ++ c :: rest ∧ (∀ d ∈ newlines, d = '\n') ∧
    startsQuietly c = true

/-- The text changes no settled stack, and starts quietly. -/
structure Declared (text : String) : Prop where
  steady : Steady text
  begins : Begins text

theorem begins_of_head {text : String} (h : text.toList.head?.any startsQuietly = true) :
    Begins text := by
  obtain ⟨c, hc, hquiet⟩ := (Option.any_eq_true _ _).1 h
  obtain ⟨rest, hrest⟩ := List.head?_eq_some_iff.1 hc
  exact ⟨[], c, rest, hrest, by simp, hquiet⟩

theorem Inline.begins {text : String} (h : Inline text) : Begins text := begins_of_head h.first

theorem Begins.append {first : String} (h : Begins first) (second : String) :
    Begins (first ++ second) := by
  obtain ⟨newlines, c, rest, htext, hnewlines, hquiet⟩ := h
  exact ⟨newlines, c, rest ++ second.toList, by simp [htext], hnewlines, hquiet⟩

theorem Begins.newline {text : String} (h : Begins text) : Begins ("\n" ++ text) := by
  obtain ⟨newlines, c, rest, htext, hnewlines, hquiet⟩ := h
  refine ⟨'\n' :: newlines, c, rest, ?_, by simpa using hnewlines, hquiet⟩
  rw [String.toList_append, htext]
  rfl

theorem begins_join_cons {head tail : String} {fragments : List String} (h : Begins head) :
    Begins (String.join ((head ++ tail) :: fragments)) := by
  rw [String.join_cons]
  exact (h.append tail).append _

theorem Declared.append {first second : String} (hfirst : Declared first)
    (hsecond : Steady second) :
    Declared (first ++ second) :=
  ⟨hfirst.steady.append hsecond, hfirst.begins.append second⟩

/-- On the empty stack, the first line of the text that is not blank is placed at depth zero. -/
def StartsAtMargin (text : String) : Prop :=
  ∃ line after, ((splitLines text.toList).map trim).find? (· ≠ []) = some line ∧
    place [] line = some (.line 0 line, after)

theorem Begins.startsAtMargin {text : String} (h : Begins text) : StartsAtMargin text := by
  obtain ⟨newlines, c, rest, htext, hnewlines, hquiet⟩ := h
  obtain ⟨hblank, -, henter⟩ := enter_of_startsQuietly hquiet []
  have hnewline : c ≠ '\n' := by
    rintro rfl
    exact absurd hblank (by decide)
  obtain ⟨line, lines, hlines⟩ := List.exists_cons_of_ne_nil (splitLines_ne_nil rest)
  have hfirst : splitLines (c :: rest) = (c :: line) :: lines := by
    rw [splitLines, if_neg hnewline, hlines]
  obtain ⟨kept, hkept⟩ := @dropWhile_isBlank_append line.reverse [] c hblank
  have htrim : trim (c :: line) = c :: kept.reverse := by
    rw [trim, List.dropWhile_cons_of_neg (by simp [hblank]), List.reverse_cons, hkept]
    simp
  refine ⟨c :: kept.reverse, _, ?_, by rw [place, henter]; rfl⟩
  rw [htext]
  clear htext
  induction newlines with
  | nil => simp [hfirst, htrim]
  | cons d newlines ih =>
    have hd : d = '\n' := hnewlines d List.mem_cons_self
    subst hd
    have hsplit := splitLines_append_cons [] (newlines ++ c :: rest)
    rw [List.nil_append] at hsplit
    rw [List.cons_append, hsplit]
    exact ih fun d hd => hnewlines d (List.mem_cons_of_mem _ hd)

/-! ## Layout -/

/-- A text over which layout gets is laid out, and the contexts of the last stack remain open. -/
theorem layout_of_lays {text : String} {final : Stack} (h : Lays [] text final)
    (indentUnit : List Char) :
    ∃ laid, layout indentUnit text.toList = .ok laid ∧ laid.openContexts = final.length := by
  have hstack : stackAfter [] (splitLines text.toList) = some final := by
    simpa [splitLines, stackAfter_blank, stackAfter] using h []
  obtain ⟨placed, hplaced⟩ := placeLines_of_stackAfter hstack 1
  exact ⟨⟨cleanUp (indent indentUnit placed), final.length⟩, by rw [layout, hplaced], rfl⟩

end DartRecords.Layout
