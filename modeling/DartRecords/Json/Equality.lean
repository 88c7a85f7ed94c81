import DartRecords.Json.Basic

/-!
# Equality of JSON values

Equality of values is decided by comparing them member by member.  A looser comparison takes
numbers for the same when they are equal, whatever their types, and objects when they have the
same members in any order.
-/

namespace DartRecords.Json

mutual

/-- Compares two values. -/
def eqv : Json → Json → Bool
  | .null, .null => true
  | .bool a, .bool b => a == b
  | .int a, .int b => a == b
  | .real a, .real b => a == b
  | .str a, .str b => a == b
  | .arr a, .arr b => eqvItems a b
  | .obj a, .obj b => eqvMembers a b
  | _, _ => false

/-- Compares two lists of values. -/
def eqvItems : List Json → List Json → Bool
  | [], [] => true
  | a :: as, b :: bs => eqv a b && eqvItems as bs
  | _, _ => false

/-- Compares two lists of members. -/
def eqvMembers : List (String × Json) → List (String × Json) → Bool
  | [], [] => true
  | (j, a) :: as, (k, b) :: bs => j == k && eqv a b && eqvMembers as bs
  | _, _ => false

end

mutual

theorem eqv_iff : (a b : Json) → (eqv a b = true ↔ a = b)
  | .null, b => by cases b <;> simp [eqv]
  | .bool a, b => by cases b <;> simp [eqv]
  | .int a, b => by cases b <;> simp [eqv]
  | .real a, b => by cases b <;> simp [eqv]
  | .str a, b => by cases b <;> simp [eqv]
  | .arr a, b => by
    cases b with
    | arr b => simp [eqv, eqvItems_iff a b]
    | _ => simp [eqv]
  | .obj a, b => by
    cases b with
    | obj b => simp [eqv, eqvMembers_iff a b]
    | _ => simp [eqv]

theorem eqvItems_iff : (as bs : List Json) → (eqvItems as bs = true ↔ as = bs)
  | [], bs => by cases bs <;> simp [eqvItems]
  | a :: as, bs => by
    cases bs with
    | nil => simp [eqvItems]
    | cons b bs => simp [eqvItems, eqv_iff a b, eqvItems_iff as bs]

theorem eqvMembers_iff : (as bs : List (String × Json)) → (eqvMembers as bs = true ↔ as = bs)
  | [], bs => by cases bs <;> simp [eqvMembers]
  | (j, a) :: as, bs => by
    cases bs with
    | nil => simp [eqvMembers]
    | cons m bs =>
      obtain ⟨k, b⟩ := m
      simp [eqvMembers, eqv_iff a b, eqvMembers_iff as bs]

end

instance : DecidableEq Json := fun a b => decidable_of_iff _ (eqv_iff a b)

mutual

/-- Whether two values are the same when only their content counts. -/
def same : Json → Json → Bool
  | .arr as, .arr bs => sameItems as bs
  | .obj as, .obj bs => as.length == bs.length && sameMembers as bs
  | a, b => sameScalar a b

/-- Whether two lists have the same items; an item is also the same as its copy, even if it is not
a number. -/
def sameItems : List Json → List Json → Bool
  | [], [] => true
  | a :: as, b :: bs => (eqv a b || same a b) && sameItems as bs
  | _, _ => false

/-- Whether members are the same as those of the same names in another list. -/
def sameMembers : Members → Members → Bool
  | [], _ => true
  | (key, a) :: as, bs =>
    (match bs.lookup key with
      | some b => eqv a b || same a b
      | none => false) && sameMembers as bs

end

end DartRecords.Json
