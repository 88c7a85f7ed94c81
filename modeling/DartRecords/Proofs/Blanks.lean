import DartRecords.Proofs.Lines
import Mathlib.Data.List.TakeWhile

/-!
# Layout changes blanks only

`bare text` is a text without its blanks.  Splitting a text into lines, trimming them, indenting
them and cleaning up keep it, each for a reason of its own:

* `bare_splitLines`: newlines are blank, so the lines of a text are bare together what it is.
* `bare_trim` and `bare_render_of_place`: a placed line is trimmed and indented, and both ends of it
  are blank.
* `Thinned.bare_eq`: every clean-up removes blanks and nothing else.

From the step over one line follows the run over all of them (`bare_indent_of_placeLines`), and from
that the statement about layout as a whole.
-/

namespace DartRecords.Layout

open Text (isBlank trim)

/-! ## Texts without their blanks -/

/-- The text without its blanks. -/
def bare (text : List Char) : List Char := text.filter (!isBlank ·)

@[simp] theorem bare_append (first second : List Char) :
    bare (first ++ second) = bare first ++ bare second := List.filter_append ..

theorem bare_cons (c : Char) (text : List Char) : bare (c :: text) = bare [c] ++ bare text :=
  bare_append [c] text

theorem bare_cons_blank {c : Char} (hc : isBlank c = true) (text : List Char) :
    bare (c :: text) = bare text := List.filter_cons_of_neg (by simp [hc])

theorem bare_of_blanks {text : List Char} (h : ∀ c ∈ text, isBlank c = true) : bare text = [] :=
  List.filter_eq_nil_iff.2 fun c hc => by simp [h c hc]

theorem bare_reverse (text : List Char) : bare text.reverse = (bare text).reverse :=
  List.filter_reverse ..

/-- Removing blanks leaves the same bare text. -/
theorem Thinned.bare_eq {text rest : List Char} (h : Thinned text rest) :
    bare rest = bare text := by
  induction h with
  | nil => rfl
  | keep c _ ih => rw [bare_cons, ih, ← bare_cons]
  | drop hc _ ih => rw [bare_cons_blank hc, ih]

/-! ## Lines -/

theorem bare_dropWhile (text : List Char) : bare (text.dropWhile isBlank) = bare text := by
  have hblank : bare (text.takeWhile isBlank) = [] :=
    bare_of_blanks fun _ hc => List.mem_takeWhile_imp hc
  calc bare (text.dropWhile isBlank)
      = bare (text.takeWhile isBlank) ++ bare (text.dropWhile isBlank) := by
        rw [hblank, List.nil_append]
    _ = bare text := by rw [← bare_append, List.takeWhile_append_dropWhile]

theorem bare_trim (line : List Char) : bare (trim line) = bare line := by
  rw [trim, bare_reverse, bare_dropWhile, bare_reverse, bare_dropWhile, List.reverse_reverse]

theorem bare_splitLines (text : List Char) : (splitLines text).flatMap bare = bare text := by
  induction text with
  | nil => rfl
  | cons c rest ih =>
    rw [splitLines]
    split
    · next hc =>
      rw [hc, bare_cons_blank isBlank_newline, ← ih, List.flatMap_cons]
      rfl
    · obtain ⟨line, lines, hlines⟩ := List.exists_cons_of_ne_nil (splitLines_ne_nil rest)
      rw [hlines] at ih ⊢
      calc bare (c :: line) ++ lines.flatMap bare
          = bare [c] ++ (bare line ++ lines.flatMap bare) := by rw [bare_cons, List.append_assoc]
        _ = bare [c] ++ bare rest := by rw [← ih, List.flatMap_cons]
        _ = bare (c :: rest) := (bare_cons c rest).symm

theorem bare_repeated {indentUnit : List Char} (hunit : ∀ c ∈ indentUnit, isBlank c = true)
    (depth : Nat) : bare (repeated indentUnit depth) = [] := by
  induction depth with
  | zero => rfl
  | succ depth ih => rw [repeated, bare_append, bare_of_blanks hunit, ih, List.append_nil]

/-! ## Placing -/

section Placing

variable {indentUnit : List Char} (hunit : ∀ c ∈ indentUnit, isBlank c = true)

include hunit

/-- Placing one line changes no character of it. -/
theorem bare_render_of_place {stack after : Stack} {line : List Char} {placed : Placed}
    (h : place stack line = some (placed, after)) :
    bare (placed.render indentUnit) = bare line := by
  have hnewline : bare ['\n'] = [] := bare_of_blanks (by simp [isBlank_newline])
  rcases place_cases h with ⟨rfl, rfl, -⟩ | ⟨first, rest, inner, -, -, rfl, -⟩
  · exact hnewline
  · rw [Placed.render, bare_append, bare_append, bare_repeated hunit, hnewline, List.nil_append,
      List.append_nil]

/-- Placing lines one after another changes no character of them. -/
theorem bare_indent_of_placeLines {n : Nat} {stack final : Stack} {lines : List (List Char)}
    {placed : List Placed} (h : placeLines n stack lines = .ok (placed, final)) :
    bare (indent indentUnit placed) = lines.flatMap bare := by
  induction lines generalizing n stack placed with
  | nil =>
    cases h
    rfl
  | cons raw rest ih =>
    obtain ⟨one, after, others, hone, hothers, rfl⟩ := placeLines_cons_eq_ok.1 h
    calc bare (one.render indentUnit ++ indent indentUnit others)
        = bare (trim raw) ++ bare (indent indentUnit others) := by
          rw [bare_append, bare_render_of_place hunit hone]
      _ = bare raw ++ rest.flatMap bare := by rw [bare_trim, ih hothers]
      _ = (raw :: rest).flatMap bare := (List.flatMap_cons ..).symm

end Placing

/-- If layout returns a text for an indentation that is made of blanks, such as spaces and tabs,
then the text has the characters of the raw code that are not blank, in their order, and no other
ones. -/
theorem layout_changes_blanks_only {indentUnit raw : List Char} {laid : Laid}
    (hunit : ∀ c ∈ indentUnit, isBlank c = true) (h : layout indentUnit raw = .ok laid) :
    bare laid.text = bare raw := by
  rw [layout] at h
  split at h
  · cases h
  · next placed final hplaced =>
    cases h
    calc bare (cleanUp (indent indentUnit placed))
        = bare (indent indentUnit placed) := (thinned_cleanUp _).bare_eq
      _ = (splitLines raw).flatMap bare := bare_indent_of_placeLines hunit hplaced
      _ = bare raw := bare_splitLines raw

/-- A call with a list in it, and with blanks of several kinds. -/
def spacedCode : List Char := "f(\n\n  a,\u00a0\n\t[ \u2003 ],\n\n);".toList

theorem spacedCode_changes_blanks_only :
    layout [' ', '\t'] spacedCode = .ok ⟨"f(\n\n \ta,\n \t[],\n\n);\n".toList, 0⟩ ∧
      bare "f(\n\n \ta,\n \t[],\n\n);\n".toList = bare spacedCode := by
  have hlaid : layout [' ', '\t'] spacedCode =
      .ok ⟨"f(\n\n \ta,\n \t[],\n\n);\n".toList, 0⟩ := by decide +kernel
  exact ⟨hlaid, layout_changes_blanks_only (List.all_eq_true.1 (by decide)) hlaid⟩

end DartRecords.Layout
