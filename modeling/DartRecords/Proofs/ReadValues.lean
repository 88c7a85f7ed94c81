import DartRecords.Proofs.WrittenValues

/-!
# What is read is readable

Every value that is read from a text is `Readable`: repeated names are merged, numbers of too many
digits are refused, and decimals are rounded to doubles.  It is nested no deeper than the limits
allow.  Deeper limits change nothing about what is read already, so the text of a readable value is
read exactly if the limits allow for the value (`parseChars_indented_eq_ok_iff`).

The readers of values, of items and of members call one another, so what one of them keeps is shown
for all three at once, by induction on the fuel (`readsReadable`, `readsDeeper`).
-/

namespace DartRecords.Json

/-- A value that a reader can give where so many lists and objects may be nested. -/
structure ReadableWithin (nesting : ℕ) (v : Json) : Prop where
  readable : Readable v
  nesting_le : v.nesting ≤ nesting

namespace Parser

/-! ## Numbers -/

theorem toNat_of_isDigit {c : Char} (h : isDigit c = true) : c.toNat - '0'.toNat ≤ 9 := by
  have hle : c ≤ '9' := of_decide_eq_true (Bool.and_eq_true_iff.1 h).2
  have : c.toNat ≤ '9'.toNat := hle
  have h9 : '9'.toNat = 57 := rfl
  have h0 : '0'.toNat = 48 := rfl
  omega

theorem ofDigitChars_lt {cs : List Char} (hcs : ∀ c ∈ cs, isDigit c = true) (init : ℕ) :
    Nat.ofDigitChars 10 cs init < 10 ^ cs.length * (init + 1) := by
  induction cs generalizing init with
  | nil => simp
  | cons c cs ih =>
    obtain ⟨hc, hcs⟩ := List.forall_mem_cons.1 hcs
    have hdigit := toNat_of_isDigit hc
    rw [Nat.ofDigitChars_cons, List.length_cons, pow_succ, mul_assoc]
    exact lt_of_lt_of_le (ih hcs _) (Nat.mul_le_mul_left _ (by omega))

theorem digitsValue_lt {cs : List Char} (hcs : ∀ c ∈ cs, isDigit c = true) {k : ℕ}
    (hlength : cs.length ≤ k) :
    digitsValue cs < Nat.pow 10 k := by
  rw [digitsValue_eq, Nat.pow_eq]
  calc Nat.ofDigitChars 10 cs 0 < 10 ^ cs.length * (0 + 1) := ofDigitChars_lt hcs 0
    _ = 10 ^ cs.length := by rw [zero_add, mul_one]
    _ ≤ 10 ^ k := Nat.pow_le_pow_right (by decide) hlength

theorem isDigit_of_mem_wholeDigits {cs : List Char} {c : Char} (h : c ∈ wholeDigits cs) :
    isDigit c = true := by
  cases cs with
  | nil => exact absurd h List.not_mem_nil
  | cons d cs =>
    rw [wholeDigits] at h
    split at h
    · rw [List.mem_singleton.1 h]
      rfl
    · exact List.all_eq_true.1 List.all_takeWhile c h

theorem readableWithin_of_number {start : ℕ} {negative : Bool} {cursor next : Cursor} {v : Json}
    (h : number start negative cursor = .ok (v, next)) (nesting : ℕ) :
    ReadableWithin nesting v := by
  have hwhole : ∀ c ∈ wholeDigits cursor.rest, isDigit c = true :=
    fun _ => isDigit_of_mem_wholeDigits
  unfold number at h
  extract_lets whole afterWhole fraction pointed afterFraction power powered after value
    exponent at h
  split at h
  · cases h
  split at h
  · split at h
    · cases h
    · next hlong =>
      have hlt : digitsValue whole < Nat.pow 10 maxDigits :=
        digitsValue_lt hwhole (Nat.le_of_not_lt hlong)
      obtain ⟨rfl, -⟩ := Prod.mk.inj (Except.ok.inj h)
      refine ⟨.int ?_, Nat.zero_le _⟩
      split
      · rwa [Int.natAbs_neg, Int.natAbs_natCast]
      · rwa [Int.natAbs_natCast]
  · obtain ⟨rfl, -⟩ := Prod.mk.inj (Except.ok.inj h)
    exact ⟨.real (Binary64.valid_ofDecimal _ _ _), Nat.zero_le _⟩

theorem readableWithin_of_scalar {cursor next : Cursor} {v : Json}
    (h : scalar cursor = .ok (v, next)) (nesting : ℕ) : ReadableWithin nesting v := by
  unfold scalar at h
  extract_lets names at h
  have hnames : ∀ p ∈ names, ReadableWithin nesting p.2 := by
    simp only [names, List.forall_mem_cons, List.not_mem_nil, false_implies, implies_true, and_true]
    exact ⟨⟨.null, Nat.zero_le _⟩, ⟨.bool true, Nat.zero_le _⟩, ⟨.bool false, Nat.zero_le _⟩,
      ⟨.real trivial, Nat.zero_le _⟩, ⟨.real trivial, Nat.zero_le _⟩,
      ⟨.real trivial, Nat.zero_le _⟩⟩
  split at h
  · next result hresult =>
    obtain ⟨⟨name, w⟩, hmem, hkeyword⟩ := List.exists_of_findSome?_eq_some hresult
    change keyword name w cursor = some result at hkeyword
    rw [keyword] at hkeyword
    split at hkeyword
    · cases hkeyword
      cases h
      exact hnames _ hmem
    · cases hkeyword
  · split at h
    · exact readableWithin_of_number h nesting
    · exact readableWithin_of_number h nesting

end Parser

/-! ## Members -/

theorem readable_obj_nil : Readable (.obj []) :=
  .obj List.nodup_nil fun _ hmem => absurd hmem List.not_mem_nil

theorem map_fst_insert (key : String) (v : Json) (members : Members) :
    (Json.insert key v members).map Prod.fst =
      if key ∈ members.map Prod.fst then members.map Prod.fst
      else members.map Prod.fst ++ [key] := by
  induction members with
  | nil => rfl
  | cons m members ih =>
    obtain ⟨k, w⟩ := m
    rw [Json.insert]
    by_cases hk : k = key
    · rw [if_pos hk, if_pos (by simp [hk]), List.map_cons, List.map_cons, hk]
    · rw [if_neg hk, List.map_cons, List.map_cons, ih]
      by_cases hmem : key ∈ members.map Prod.fst
      · rw [if_pos hmem, if_pos (List.mem_cons_of_mem _ hmem)]
      · rw [if_neg hmem, if_neg (by simp [Ne.symm hk, hmem]), List.cons_append]

theorem mem_insert {key : String} {v : Json} {members : Members} {m : String × Json}
    (h : m ∈ Json.insert key v members) : m = (key, v) ∨ m ∈ members := by
  induction members with
  | nil => exact .inl (List.mem_singleton.1 h)
  | cons other members ih =>
    obtain ⟨k, w⟩ := other
    rw [Json.insert] at h
    split at h
    · exact (List.mem_cons.1 h).imp_right (List.mem_cons_of_mem _)
    · obtain rfl | h := List.mem_cons.1 h
      · exact .inr List.mem_cons_self
      · exact (ih h).imp_right (List.mem_cons_of_mem _)

theorem readable_insert {key : String} {v : Json} {members : Members}
    (hmembers : Readable (.obj members)) (hv : Readable v) :
    Readable (.obj (Json.insert key v members)) := by
  cases hmembers with
  | obj hnodup hall =>
    refine .obj ?_ fun m hm => ?_
    · rw [map_fst_insert]
      split
      · exact hnodup
      · next hkey => exact hnodup.append (List.nodup_singleton key) (List.disjoint_singleton.2 hkey)
    · obtain rfl | hm := mem_insert hm
      · exact hv
      · exact hall m hm

/-! ## Values -/

theorem readableWithin_arr {nesting : ℕ} {items : List Json}
    (h : ∀ v ∈ items, ReadableWithin nesting v) :
    ReadableWithin (nesting + 1) (.arr items) :=
  ⟨.arr fun v hv => (h v hv).readable, height_arr_le_iff.2 fun v hv => (h v hv).nesting_le⟩

theorem readableWithin_obj_nil (nesting : ℕ) : ReadableWithin (nesting + 1) (.obj []) :=
  ⟨readable_obj_nil, height_obj_le_iff.2 fun _ hm => absurd hm List.not_mem_nil⟩

theorem readableWithin_insert {nesting : ℕ} {key : String} {v : Json} {members : Members}
    (hmembers : ReadableWithin (nesting + 1) (.obj members)) (hv : ReadableWithin nesting v) :
    ReadableWithin (nesting + 1) (.obj (Json.insert key v members)) := by
  refine ⟨readable_insert hmembers.readable hv.readable, height_obj_le_iff.2 fun m hm => ?_⟩
  obtain rfl | hm := mem_insert hm
  · exact hv.nesting_le
  · exact height_obj_le_iff.1 hmembers.nesting_le m hm

namespace Parser

variable [LoneHalves]

/-- What the readers keep, as far as they get with some fuel. -/
structure ReadsReadable (fuel : ℕ) : Prop where
  value : ∀ {nesting : ℕ} {cursor next : Cursor} {v : Json},
    value fuel nesting cursor = .ok (v, next) → ReadableWithin nesting v
  elements : ∀ {nesting : ℕ} {seen : List Json} {cursor next : Cursor} {v : Json},
    (∀ w ∈ seen, ReadableWithin nesting w) →
    elements fuel nesting seen cursor = .ok (v, next) → ReadableWithin (nesting + 1) v
  members : ∀ {nesting : ℕ} {seen : Members} {cursor next : Cursor} {v : Json},
    ReadableWithin (nesting + 1) (.obj seen) →
    members fuel nesting seen cursor = .ok (v, next) → ReadableWithin (nesting + 1) v

section Step

variable {fuel nesting : ℕ} {cursor next : Cursor} {v : Json} (h : ReadsReadable fuel)

include h

theorem readable_of_value (hread : value (fuel + 1) nesting cursor = .ok (v, next)) :
    ReadableWithin nesting v := by
  rw [Parser.value] at hread
  split at hread
  · cases hread
  · -- A string
    split at hread
    · cases hread
    · cases hread
      exact ⟨.str _, Nat.zero_le _⟩
  · -- A list
    split at hread
    · cases hread
    · dsimp only at hread
      split at hread
      · cases hread
        exact readableWithin_arr fun _ hmem => absurd hmem List.not_mem_nil
      · exact h.elements (fun _ hmem => absurd hmem List.not_mem_nil) hread
  · -- An object
    split at hread
    · cases hread
    · dsimp only at hread
      split at hread
      · cases hread
        exact readableWithin_obj_nil _
      · exact h.members (readableWithin_obj_nil _) hread
  · exact readableWithin_of_scalar hread nesting

theorem readable_of_elements {seen : List Json} (hseen : ∀ w ∈ seen, ReadableWithin nesting w)
    (hread : elements (fuel + 1) nesting seen cursor = .ok (v, next)) :
    ReadableWithin (nesting + 1) v := by
  rw [Parser.elements] at hread
  split at hread
  · cases hread
  · next w after hvalue =>
    have hall : ∀ x ∈ w :: seen, ReadableWithin nesting x :=
      List.forall_mem_cons.2 ⟨h.value hvalue, hseen⟩
    dsimp only at hread
    split at hread
    · cases hread
      exact readableWithin_arr fun x hx => hall x (List.mem_reverse.1 hx)
    · exact h.elements hall hread
    · cases hread

theorem readable_of_members {seen : Members} (hseen : ReadableWithin (nesting + 1) (.obj seen))
    (hread : members (fuel + 1) nesting seen cursor = .ok (v, next)) :
    ReadableWithin (nesting + 1) v := by
  rw [Parser.members] at hread
  split at hread
  · split at hread
    · cases hread
    · dsimp only at hread
      split at hread
      · split at hread
        · cases hread
        · next w after hvalue =>
          have hinsert : ∀ name, ReadableWithin (nesting + 1) (.obj (Json.insert name w seen)) :=
            fun _ => readableWithin_insert hseen (h.value hvalue)
          split at hread
          · cases hread
            exact hinsert _
          · exact h.members (hinsert _) hread
          · cases hread
      · cases hread
  · cases hread

theorem readsReadable_succ : ReadsReadable (fuel + 1) :=
  ⟨readable_of_value h, readable_of_elements h, readable_of_members h⟩

end Step

theorem readsReadable (fuel : ℕ) : ReadsReadable fuel := by
  induction fuel with
  | zero =>
    refine ⟨?_, ?_, ?_⟩
    · intro nesting cursor next v h
      rw [Parser.value] at h
      cases h
    · intro nesting seen cursor next v _ h
      rw [Parser.elements] at h
      cases h
    · intro nesting seen cursor next v _ h
      rw [Parser.members] at h
      cases h
  | succ fuel ih => exact readsReadable_succ ih

/-! ## Deeper nesting -/

/-- With some fuel, whatever is read is read as well where more lists and objects may be nested. -/
structure ReadsDeeper (fuel : ℕ) : Prop where
  value : ∀ {nesting deeper : ℕ} {cursor : Cursor} {result : Json × Cursor}, nesting ≤ deeper →
    value fuel nesting cursor = .ok result → value fuel deeper cursor = .ok result
  elements : ∀ {nesting deeper : ℕ} {seen : List Json} {cursor : Cursor} {result : Json × Cursor},
    nesting ≤ deeper → elements fuel nesting seen cursor = .ok result →
    elements fuel deeper seen cursor = .ok result
  members : ∀ {nesting deeper : ℕ} {seen : Members} {cursor : Cursor} {result : Json × Cursor},
    nesting ≤ deeper → members fuel nesting seen cursor = .ok result →
    members fuel deeper seen cursor = .ok result

section Step

variable {fuel nesting deeper : ℕ} {cursor : Cursor} {result : Json × Cursor} (h : ReadsDeeper fuel)
  (hle : nesting ≤ deeper)

include h hle

theorem value_deeper (hread : value (fuel + 1) nesting cursor = .ok result) :
    value (fuel + 1) deeper cursor = .ok result := by
  rw [Parser.value] at hread ⊢
  split at hread
  · exact hread
  · exact hread
  · -- A list
    split at hread
    · cases hread
    · next nesting =>
      obtain ⟨deeper, rfl⟩ : ∃ k, deeper = k + 1 := Nat.exists_eq_succ_of_ne_zero (by omega)
      dsimp only at hread ⊢
      split at hread
      · exact hread
      · exact h.elements (Nat.le_of_succ_le_succ hle) hread
  · -- An object
    split at hread
    · cases hread
    · next nesting =>
      obtain ⟨deeper, rfl⟩ : ∃ k, deeper = k + 1 := Nat.exists_eq_succ_of_ne_zero (by omega)
      dsimp only at hread ⊢
      split at hread
      · exact hread
      · exact h.members (Nat.le_of_succ_le_succ hle) hread
  · exact hread

theorem elements_deeper {seen : List Json}
    (hread : elements (fuel + 1) nesting seen cursor = .ok result) :
    elements (fuel + 1) deeper seen cursor = .ok result := by
  rw [Parser.elements] at hread ⊢
  split at hread
  · cases hread
  · next w after hvalue =>
    rw [h.value hle hvalue]
    dsimp only at hread ⊢
    split at hread
    · exact hread
    · exact h.elements hle hread
    · cases hread

theorem members_deeper {seen : Members}
    (hread : members (fuel + 1) nesting seen cursor = .ok result) :
    members (fuel + 1) deeper seen cursor = .ok result := by
  rw [Parser.members] at hread ⊢
  split at hread
  · split at hread
    · cases hread
    · dsimp only at hread ⊢
      split at hread
      · split at hread
        · cases hread
        · next w after hvalue =>
          rw [h.value hle hvalue]
          dsimp only
          split at hread
          · exact hread
          · exact h.members hle hread
          · cases hread
      · cases hread
  · cases hread

end Step

theorem readsDeeper (fuel : ℕ) : ReadsDeeper fuel := by
  induction fuel with
  | zero =>
    refine ⟨?_, ?_, ?_⟩
    · intro nesting deeper cursor result _ h
      rw [Parser.value] at h
      cases h
    · intro nesting deeper seen cursor result _ h
      rw [Parser.elements] at h
      cases h
    · intro nesting deeper seen cursor result _ h
      rw [Parser.members] at h
      cases h
  | succ fuel ih =>
    exact ⟨fun hle => value_deeper ih hle, fun hle => elements_deeper ih hle, fun hle =>
      members_deeper ih hle⟩

end Parser

/-! ## Texts -/

section Texts

variable [LoneHalves] {cs : List Char} {v : Json}

theorem exists_value_of_parseChars [Limits] (h : parseChars cs = .ok v) :
    ∃ next, Parser.value (2 * cs.length + 2) Limits.nesting (Parser.skipSpace 0 cs) =
      .ok (v, next) := by
  unfold parseChars at h
  split at h
  · cases h
  split at h
  · cases h
  · next w next hvalue =>
    dsimp only at h
    split at h
    · cases h
      exact ⟨next, hvalue⟩
    · cases h

/-- Every value that is read from a text is readable, and nested as the limits allow. -/
theorem readableWithin_of_parseChars [Limits] (h : parseChars cs = .ok v) :
    ReadableWithin Limits.nesting v := by
  obtain ⟨next, hvalue⟩ := exists_value_of_parseChars h
  exact (Parser.readsReadable _).value hvalue

/-- What is read from a text is read from it as well where more lists and objects may be nested. -/
theorem parseChars_deeper {limits deeper : Limits} (hle : limits.nesting ≤ deeper.nesting)
    (h : @parseChars limits _ cs = .ok v) : @parseChars deeper _ cs = .ok v := by
  obtain ⟨next, hvalue⟩ := @exists_value_of_parseChars _ cs v limits h
  have hdeeper := (Parser.readsDeeper _).value hle hvalue
  unfold parseChars at h ⊢
  split at h
  · cases h
  · rw [hvalue] at h
    rw [hdeeper]
    exact h

/-- The text of a readable value is read exactly if the value is nested as the limits allow. -/
theorem parseChars_indented_eq_ok_iff [limits : Limits] {w : Json} (hw : Readable w) :
    parseChars (indented 0 w) = .ok v ↔ v = w ∧ w.nesting ≤ Limits.nesting := by
  constructor
  · intro h
    -- Limits that allow for the value give it back, and they read what these limits do.
    have hsame : ∀ deeper : Limits, limits.nesting ≤ deeper.nesting →
        w.nesting ≤ deeper.nesting → v = w := by
      intro deeper hle hnesting
      exact Except.ok.inj ((parseChars_deeper hle h).symm.trans (parseChars_indented hw hnesting))
    obtain rfl := hsame ⟨max limits.nesting w.nesting, limits.copies, limits.length⟩
      (Nat.le_max_left _ _) (Nat.le_max_right _ _)
    exact ⟨rfl, (readableWithin_of_parseChars h).nesting_le⟩
  · rintro ⟨rfl, hnesting⟩
    exact parseChars_indented hw hnesting

end Texts

end DartRecords.Json
