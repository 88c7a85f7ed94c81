import Mathlib.Data.List.Forall2

/-!
# Lists of entries, lists that are related item by item, and results with their faults renamed
-/

namespace DartRecords

theorem lookup_cons_of_ne {α β : Type} [BEq α] [LawfulBEq α] {key other : α} (h : other ≠ key)
    (value : β) (entries : List (α × β)) :
    ((key, value) :: entries).lookup other = entries.lookup other := by
  have hbeq : (other == key) = false := beq_eq_false_iff_ne.2 h
  rw [List.lookup_cons, hbeq]

@[simp]
theorem mapError_ok {ε ε' α : Type} (rename : ε → ε') (a : α) :
    (Except.ok a).mapError rename = .ok a :=
  rfl

@[simp]
theorem mapError_error {ε ε' α : Type} (rename : ε → ε') (e : ε) :
    (Except.error e : Except ε α).mapError rename = .error (rename e) :=
  rfl

/-- A result is what it is under any name for its faults. -/
theorem mapError_eq_ok_iff {ε ε' α : Type} {rename : ε → ε'} {result : Except ε α} {a : α} :
    result.mapError rename = .ok a ↔ result = .ok a := by
  cases result with
  | error e => simp
  | ok b => simp

variable {α β : Type} {R : α → β → Prop} {xs : List α} {ys : List β}

theorem exists_of_forall₂_left (h : List.Forall₂ R xs ys) {x : α} (hx : x ∈ xs) :
    ∃ y ∈ ys, R x y := by
  induction h with
  | nil => cases hx
  | cons hxy _ ih =>
    rcases List.mem_cons.1 hx with rfl | hx
    · exact ⟨_, List.mem_cons_self, hxy⟩
    · obtain ⟨y, hy, hrel⟩ := ih hx
      exact ⟨y, List.mem_cons_of_mem _ hy, hrel⟩

/-- What holds of each two items of the one list carries over to the other. -/
theorem pairwise_of_forall₂ {S : α → α → Prop} {S' : β → β → Prop} (h : List.Forall₂ R xs ys)
    (hxs : xs.Pairwise S) (hS : ∀ {x x' : α} {y y' : β}, R x y → R x' y' → S x x' → S' y y') :
    ys.Pairwise S' := by
  induction h with
  | nil => exact .nil
  | cons hxy hrest ih =>
    refine .cons (fun y' hy' => ?_) (ih hxs.of_cons)
    obtain ⟨x', hx', hrel⟩ := exists_of_forall₂_left hrest.flip hy'
    exact hS hxy hrel (List.rel_of_pairwise_cons hxs hx')

theorem split_append {first second both : String} (h : first ++ second = both) (rest : String) :
    both ++ rest = first ++ (second ++ rest) := by
  rw [← h, String.append_assoc]

theorem join_map_join (codes : List (List String)) :
    String.join (codes.map String.join) = String.join codes.flatten := by
  induction codes with
  | nil => rfl
  | cons code codes ih =>
    rw [List.map_cons, String.join_cons, ih, List.flatten_cons, String.join_append]

/-- If the code of each item is the text of some parts, so is the code of all of them. -/
theorem exists_parts_of_forall₂ {γ : Type} {name text : γ → String} {names : α → List String}
    {codeText : β → String} (h : List.Forall₂ R xs ys)
    (hparts : ∀ x ∈ xs, ∀ y, R x y →
      ∃ parts : List γ, parts.map name = names x ∧ String.join (parts.map text) = codeText y) :
    ∃ parts : List γ, parts.map name = xs.flatMap names ∧
      String.join (parts.map text) = String.join (ys.map codeText) := by
  induction h with
  | nil => exact ⟨[], rfl, rfl⟩
  | @cons x y xs ys hxy _ ih =>
    obtain ⟨first, hfirst, hfirstText⟩ := hparts x List.mem_cons_self y hxy
    obtain ⟨others, hothers, hothersText⟩ := ih fun x hx => hparts x (List.mem_cons_of_mem _ hx)
    refine ⟨first ++ others, ?_, ?_⟩
    · rw [List.map_append, hfirst, hothers, List.flatMap_cons]
    · rw [List.map_append, String.join_append, hfirstText, hothersText, List.map_cons,
        String.join_cons]

theorem mapM_map_of_forall {α β γ ε : Type} (step : β → Except ε γ) (value : α → β)
    (result : α → γ) (h : ∀ a, step (value a) = .ok (result a)) (items : List α) :
    (items.map value).mapM step = .ok (items.map result) := by
  induction items with
  | nil => rfl
  | cons item items ih =>
    rw [List.map_cons, List.mapM_cons, h, ih]
    rfl

theorem bind_eq_ok_iff {α β ε : Type} {result : Except ε α} {next : α → Except ε β} {b : β} :
    result >>= next = .ok b ↔ ∃ a, result = .ok a ∧ next a = .ok b := by
  constructor
  · intro h
    cases result with
    | error e => cases h
    | ok a => exact ⟨a, rfl, h⟩
  · rintro ⟨a, rfl, h⟩
    exact h

theorem bind_eq_ok {α β ε : Type} {result : Except ε α} {next : α → Except ε β} {b : β}
    (h : result >>= next = .ok b) : ∃ a, result = .ok a ∧ next a = .ok b :=
  bind_eq_ok_iff.1 h

theorem forall₂_of_mapM {α β ε : Type} {step : α → Except ε β} {items : List α} {results : List β}
    (h : items.mapM step = .ok results) :
    List.Forall₂ (fun item result => step item = .ok result) items results := by
  induction items generalizing results with
  | nil =>
    cases h
    exact .nil
  | cons first rest ih =>
    rw [List.mapM_cons] at h
    obtain ⟨result, hresult, h⟩ := bind_eq_ok h
    obtain ⟨others, hothers, h⟩ := bind_eq_ok h
    cases h
    exact .cons hresult (ih hothers)

end DartRecords
