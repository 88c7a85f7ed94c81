import DartRecords.Layout.Indent
import DartRecords.Naming.Words
import DartRecords.Text.Search

/-!
# Splitting texts

Lines, the parts of names and the names of paths are all what stands between the separators of a
text, so each is an instance of `List.splitOnP`.  What is known about that function is used for
them.
-/

namespace DartRecords

/-- A function that splits a text at some characters is `List.splitOnP`. -/
theorem eq_splitOnP {p : Char → Bool} {split : List Char → List (List Char)}
    (hnil : split [] = [[]])
    (hcons : ∀ c rest, split (c :: rest) =
      if p c = true then [] :: split rest
      else match split rest with
        | [] => [[c]]
        | part :: more => (c :: part) :: more) (text : List Char) :
    split text = text.splitOnP p := by
  induction text with
  | nil => rw [hnil, List.splitOnP_nil]
  | cons c rest ih =>
    rw [hcons, List.splitOnP_cons_eq_if_modifyHead, ih]
    obtain ⟨part, more, hparts⟩ := List.exists_cons_of_ne_nil (List.splitOnP_ne_nil p rest)
    rw [hparts]
    rfl

/-- What stands between separators is part of the text and has no separators. -/
theorem of_mem_splitOnP {p : Char → Bool} {text part : List Char} {c : Char}
    (hpart : part ∈ text.splitOnP p) (hc : c ∈ part) : c ∈ text ∧ p c = false := by
  induction text generalizing part with
  | nil =>
    rw [List.splitOnP_nil, List.mem_singleton] at hpart
    rw [hpart] at hc
    cases hc
  | cons d rest ih =>
    rw [List.splitOnP_cons_eq_if_modifyHead] at hpart
    obtain ⟨first, more, hparts⟩ := List.exists_cons_of_ne_nil (List.splitOnP_ne_nil p rest)
    rw [hparts] at hpart ih
    split at hpart
    · rcases List.mem_cons.1 hpart with rfl | hpart
      · cases hc
      · exact (ih hpart hc).imp_left (List.mem_cons_of_mem d)
    · next hd =>
      rw [List.modifyHead_cons] at hpart
      rcases List.mem_cons.1 hpart with rfl | hpart
      · rcases List.mem_cons.1 hc with rfl | hc
        · exact ⟨List.mem_cons_self, eq_false_of_ne_true hd⟩
        · exact (ih List.mem_cons_self hc).imp_left (List.mem_cons_of_mem d)
      · exact (ih (List.mem_cons_of_mem first hpart) hc).imp_left (List.mem_cons_of_mem d)

theorem splitLines_eq_splitOnP (text : List Char) :
    Layout.splitLines text = text.splitOnP (· = '\n') := by
  refine eq_splitOnP rfl (fun c rest => ?_) text
  rw [Layout.splitLines]
  exact ite_congr (by simp) (fun _ => rfl) fun _ => rfl

theorem parts_eq_splitOnP (text : List Char) :
    Naming.parts text = text.splitOnP Naming.isSeparator :=
  eq_splitOnP rfl (fun _ _ => rfl) text

theorem splitAt_eq_splitOnP (separator : Char) (text : List Char) :
    Text.splitAt separator text = text.splitOnP (· = separator) := by
  refine eq_splitOnP rfl (fun c rest => ?_) text
  rw [Text.splitAt]
  exact ite_congr (by simp) (fun _ => rfl) fun _ => rfl

end DartRecords
