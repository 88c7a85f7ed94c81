import DartRecords.Proofs.JoinedRows
import Mathlib.Data.List.Forall2

/-!
# The indentation of one level

Layout cleans up a text that is indented already, so the clean-ups read the indentation with the
text.  They find the same in it whatever the indentation of one level is: one page is written in two
ways (`reindented_lines`), because layout knows the page before it indents it (`layout_eq`).
-/

namespace DartRecords.Layout

/-- A line with one indentation, and the same line with another one. -/
inductive Reindented (indentUnit indentUnit' : List Char) : List Char → List Char → Prop where
  | empty : Reindented indentUnit indentUnit' [] []
  /-- The same text stands at the same depth in both. -/
  | line (depth : Nat) {text : List Char} : Visible text →
      Reindented indentUnit indentUnit' (repeated indentUnit depth ++ text)
        (repeated indentUnit' depth ++ text)

section Lines

variable (indentUnit indentUnit' : List Char)

theorem reindented_blanks (n : Nat) :
    List.Forall₂ (Reindented indentUnit indentUnit') (List.replicate n [])
      (List.replicate n []) := by
  induction n with
  | zero => exact .nil
  | succ n ih => exact .cons .empty ih

theorem reindented_rows {rows : List Row} (hrows : Readable rows) :
    List.Forall₂ (Reindented indentUnit indentUnit') (rows.flatMap (Row.lines indentUnit))
      (rows.flatMap (Row.lines indentUnit')) := by
  induction rows with
  | nil => exact .nil
  | cons r rest ih =>
    have hline :
        Reindented indentUnit indentUnit' (r.indented indentUnit) (r.indented indentUnit') :=
      .line r.depth (hrows r List.mem_cons_self)
    rw [List.flatMap_cons, List.flatMap_cons]
    exact List.rel_append (.cons hline (reindented_blanks indentUnit indentUnit' r.blanks))
      (ih hrows.tail)

/-- The lines of one page with two indentations. -/
theorem reindented_lines {page : Page} (hrows : Readable page.rows) :
    List.Forall₂ (Reindented indentUnit indentUnit') (page.lines indentUnit)
      (page.lines indentUnit') :=
  List.rel_append (reindented_blanks indentUnit indentUnit' page.lead)
    (reindented_rows indentUnit indentUnit' hrows)

end Lines

/-- Whatever two indentations of one level are asked for, spaces and tabs or nothing at all, layout
fails for both at the same line, or returns texts with the same lines up to the indentation of
each. -/
theorem indent_unit_changes_indentation_only {indentUnit indentUnit' : List Char}
    (hunit : IsIndentation indentUnit) (hunit' : IsIndentation indentUnit') (raw : List Char) :
    (∀ e, layout indentUnit raw = .error e ↔ layout indentUnit' raw = .error e) ∧
    ∀ laid laid', layout indentUnit raw = .ok laid → layout indentUnit' raw = .ok laid' →
      laid'.openContexts = laid.openContexts ∧
      List.Forall₂ (Reindented indentUnit indentUnit') (splitLines laid.text)
        (splitLines laid'.text) := by
  rw [layout_eq hunit, layout_eq hunit']
  cases hplaced : placeLines 1 [] (splitLines raw) with
  | error e =>
    refine ⟨fun e' => Iff.rfl, fun laid laid' h => ?_⟩
    cases h
  | ok placed =>
    have hrows := readable_of_splitLines hplaced
    have hclean : Readable (Page.of placed.1).joined.clean.rows := hrows.joined.adjust gapCleaned
    refine ⟨fun e => iff_of_false (fun h => ?_) (fun h => ?_), fun laid laid' h h' => ?_⟩
    · cases h
    · cases h
    · cases h
      cases h'
      refine ⟨rfl, ?_⟩
      rw [splitLines_text hunit hclean, splitLines_text hunit' hclean]
      exact List.rel_append (reindented_lines indentUnit indentUnit' hclean) (.cons .empty .nil)

/-- A class with blank lines beside its braces, brackets that are empty over some lines, and a
chain. -/
def nestedCode : List Char :=
  "class A \x7b\n\nf(\n\n)\n.g([\n1,\n]);\n\nh \x7b\n\n\n\x7d\n\n\x7d".toList

/-- With a tab, and with nothing at all. -/
theorem nestedCode_indented_twice :
    layout ['\t'] nestedCode =
      .ok ⟨"class A \x7b\n\tf()\n\t\t.g([\n\t\t\t1,\n\t\t]);\n\n\th \x7b\x7d\n\x7d\n".toList, 0⟩ ∧
    layout [] nestedCode =
      .ok ⟨"class A \x7b\nf()\n.g([\n1,\n]);\n\nh \x7b\x7d\n\x7d\n".toList, 0⟩ ∧
    List.Forall₂ (Reindented ['\t'] [])
      (splitLines "class A \x7b\n\tf()\n\t\t.g([\n\t\t\t1,\n\t\t]);\n\n\th \x7b\x7d\n\x7d\n".toList)
      (splitLines "class A \x7b\nf()\n.g([\n1,\n]);\n\nh \x7b\x7d\n\x7d\n".toList) := by
  have htab : layout ['\t'] nestedCode =
      .ok ⟨"class A \x7b\n\tf()\n\t\t.g([\n\t\t\t1,\n\t\t]);\n\n\th \x7b\x7d\n\x7d\n".toList,
        0⟩ := by
    decide +kernel
  have hnone : layout [] nestedCode =
      .ok ⟨"class A \x7b\nf()\n.g([\n1,\n]);\n\nh \x7b\x7d\n\x7d\n".toList, 0⟩ := by decide +kernel
  have hlines :=
    (indent_unit_changes_indentation_only (by decide) (by decide) nestedCode).2 _ _ htab hnone
  exact ⟨htab, hnone, hlines.2⟩

end DartRecords.Layout
