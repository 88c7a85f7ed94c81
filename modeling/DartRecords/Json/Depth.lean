import DartRecords.Json.Basic

/-!
# Nesting depth

The depth of a value bounds how far a reader can descend into it.  Its nesting is the number of
lists and objects that a reader enters on the way.
-/

namespace DartRecords.Json

mutual

/-- The length of the longest way down into a value.  Lists and objects on the way count as one, and
any other value at its end counts as `leaf`. -/
def height (leaf : Nat) : Json → Nat
  | .arr items => itemsHeight leaf items + 1
  | .obj members => membersHeight leaf members + 1
  | _ => leaf

/-- The greatest height of the items of a list. -/
def itemsHeight (leaf : Nat) : List Json → Nat
  | [] => 0
  | v :: rest => max (height leaf v) (itemsHeight leaf rest)

/-- The greatest height of the members of an object. -/
def membersHeight (leaf : Nat) : List (String × Json) → Nat
  | [] => 0
  | (_, v) :: rest => max (height leaf v) (membersHeight leaf rest)

end

@[simp]
theorem height_arr (leaf : Nat) (items : List Json) :
    (Json.arr items).height leaf = itemsHeight leaf items + 1 :=
  rfl

@[simp]
theorem height_obj (leaf : Nat) (members : List (String × Json)) :
    (Json.obj members).height leaf = membersHeight leaf members + 1 :=
  rfl

theorem itemsHeight_cons (leaf : Nat) (v : Json) (rest : List Json) :
    itemsHeight leaf (v :: rest) = max (v.height leaf) (itemsHeight leaf rest) :=
  rfl

theorem membersHeight_cons (leaf : Nat) (m : String × Json) (rest : List (String × Json)) :
    membersHeight leaf (m :: rest) = max (m.2.height leaf) (membersHeight leaf rest) :=
  rfl

/-- The number of values from a value down to its deepest part. -/
def depth (v : Json) : Nat := v.height 1

/-- The number of lists and objects from a value down to the innermost one. -/
def nesting (v : Json) : Nat := v.height 0

theorem depth_pos (v : Json) : 0 < v.depth := by
  cases v with
  | arr items => exact Nat.succ_pos _
  | obj members => exact Nat.succ_pos _
  | _ => exact Nat.one_pos

theorem height_arr_le_iff {leaf n : Nat} {items : List Json} :
    (Json.arr items).height leaf ≤ n + 1 ↔ ∀ v ∈ items, v.height leaf ≤ n := by
  rw [height_arr, Nat.add_le_add_iff_right]
  induction items with
  | nil => exact iff_of_true (Nat.zero_le n) (by simp)
  | cons v items ih => rw [itemsHeight_cons, Nat.max_le, ih, List.forall_mem_cons]

theorem height_obj_le_iff {leaf n : Nat} {members : List (String × Json)} :
    (Json.obj members).height leaf ≤ n + 1 ↔ ∀ m ∈ members, m.2.height leaf ≤ n := by
  rw [height_obj, Nat.add_le_add_iff_right]
  induction members with
  | nil => exact iff_of_true (Nat.zero_le n) (by simp)
  | cons m members ih => rw [membersHeight_cons, Nat.max_le, ih, List.forall_mem_cons]

theorem height_lt_of_mem_items {leaf : Nat} {items : List Json} {v : Json} (h : v ∈ items) :
    v.height leaf < (Json.arr items).height leaf := by
  have hitems := height_arr_le_iff.1 (Nat.le_of_eq (height_arr leaf items)) v h
  rw [height_arr]
  exact Nat.lt_succ_of_le hitems

theorem height_lt_of_mem_members {leaf : Nat} {members : List (String × Json)} {m : String × Json}
    (h : m ∈ members) : m.2.height leaf < (Json.obj members).height leaf := by
  have hmembers := height_obj_le_iff.1 (Nat.le_of_eq (height_obj leaf members)) m h
  rw [height_obj]
  exact Nat.lt_succ_of_le hmembers

end DartRecords.Json
