import DartRecords.Proofs.ReadValues

/-!
# Fuel of the reader

The readers of strings, values, items and members count down fuel, and fail when none is left.  With
the fuel that a whole text is given, this never shows: no reader lengthens what is left to read
(`shortens`), so each of them gets to an end before its fuel does, and one more unit changes nothing
(`settled`).  `readValue` and `readName` are the readers with as much fuel as they need.
-/

namespace DartRecords.Json.Parser

/-! ## What is left to read -/

theorem length_skipSpace_le (pos : ℕ) (cs : List Char) :
    (skipSpace pos cs).rest.length ≤ cs.length := by
  induction cs generalizing pos with
  | nil => exact Nat.le_refl _
  | cons c cs ih =>
    rw [skipSpace]
    split
    · exact (ih (pos + 1)).trans (Nat.le_succ _)
    · exact Nat.le_refl _

/-- A character behind blanks is taken off what is left. -/
theorem length_lt_of_skipSpace {pos : ℕ} {cs rest : List Char} {c : Char}
    (h : (skipSpace pos cs).rest = c :: rest) :
    rest.length < cs.length := by
  have hskip := length_skipSpace_le pos cs
  rwa [h, List.length_cons] at hskip

/-- Behind a character that follows blanks, and behind the blanks that follow it, less is left. -/
theorem length_skipSpace_lt {pos : ℕ} {cs rest : List Char} {c : Char}
    (h : (skipSpace pos cs).rest = c :: rest) (next : ℕ) :
    (skipSpace next rest).rest.length < cs.length :=
  (length_skipSpace_le next rest).trans_lt (length_lt_of_skipSpace h)

section Strings

variable {pos start fuel : ℕ} {cs seen : List Char} {cursor next : Cursor}

theorem length_unicodeUnit_le {n : ℕ} (h : unicodeUnit pos cs = .ok (n, next)) :
    next.rest.length ≤ cs.length := by
  unfold unicodeUnit at h
  split at h
  · cases h
  · split at h
    · cases h
      rw [List.length_drop]
      exact Nat.sub_le _ _
    · cases h

variable [LoneHalves]

theorem length_unicodeEscape_le {c : Char} (h : unicodeEscape pos cs = .ok (c, next)) :
    next.rest.length ≤ cs.length := by
  unfold unicodeEscape at h
  split at h
  · cases h
  · next high after hunit =>
    have hafter := length_unicodeUnit_le hunit
    split at h
    · split at h
      · next rest hrest =>
        rw [hrest, List.length_cons, List.length_cons] at hafter
        split at h
        · cases h
        · split at h
          · obtain ⟨-, rfl⟩ := Prod.mk.inj (Except.ok.inj h)
            rw [List.length_drop]
            omega
          · cases h
            rw [hrest, List.length_cons, List.length_cons]
            exact hafter
      · cases h
        exact hafter
    · cases h
      exact hafter

theorem length_string_le {s : String} (h : string start fuel seen cursor = .ok (s, next)) :
    next.rest.length ≤ cursor.rest.length := by
  induction fuel generalizing seen cursor with
  | zero => cases h
  | succ fuel ih =>
    obtain ⟨pos, cs⟩ := cursor
    rw [string.eq_def] at h
    dsimp only at h
    split at h
    · cases h
    · cases h
      exact Nat.le_succ _
    · cases h
    · next rest =>
      split at h
      · cases h
      · next c after hescape =>
        have hafter := length_unicodeEscape_le hescape
        have := ih h
        simp only [List.length_cons]
        omega
    · next c rest _ =>
      split at h
      · have := ih h
        simp only [List.length_cons] at this ⊢
        omega
      · cases h
    · split at h
      · cases h
      · exact (ih h).trans (Nat.le_succ _)

/-- A string of so many characters needs no more fuel. -/
theorem string_succ (h : cursor.rest.length < fuel) :
    string start (fuel + 1) seen cursor = string start fuel seen cursor := by
  induction fuel generalizing seen cursor with
  | zero => exact absurd h (Nat.not_lt_zero _)
  | succ fuel ih =>
    obtain ⟨pos, cs⟩ := cursor
    rw [string.eq_def]
    conv_rhs => rw [string.eq_def]
    dsimp only
    split
    · rfl
    · rfl
    · rfl
    · next rest =>
      split
      · rfl
      · next c after hescape =>
        have hafter := length_unicodeEscape_le hescape
        simp only [List.length_cons] at h
        exact ih (by omega)
    · next c rest _ =>
      split
      · simp only [List.length_cons] at h
        exact ih (show rest.length < fuel by omega)
      · rfl
    · next c rest _ _ _ _ =>
      split
      · rfl
      · exact ih (Nat.lt_of_succ_lt_succ h)

end Strings

section Scalars

variable {start : ℕ} {negative : Bool} {cursor next : Cursor} {v : Json}

theorem length_number_le (h : number start negative cursor = .ok (v, next)) :
    next.rest.length ≤ cursor.rest.length := by
  unfold number at h
  extract_lets whole afterWhole fraction pointed afterFraction power powered after value
    exponent at h
  have hafter : after.rest.length ≤ cursor.rest.length := by
    simp only [after, afterFraction, afterWhole, List.length_drop]
    omega
  split at h
  · cases h
  · split at h
    · split at h
      · cases h
      · rwa [← (Prod.mk.inj (Except.ok.inj h)).2]
    · rwa [← (Prod.mk.inj (Except.ok.inj h)).2]

theorem length_scalar_le (h : scalar cursor = .ok (v, next)) :
    next.rest.length ≤ cursor.rest.length := by
  unfold scalar at h
  extract_lets names at h
  split at h
  · next result hresult =>
    obtain ⟨⟨name, w⟩, -, hkeyword⟩ := List.exists_of_findSome?_eq_some hresult
    change keyword name w cursor = some result at hkeyword
    rw [keyword] at hkeyword
    split at hkeyword
    · cases hkeyword
      cases h
      rw [List.length_drop]
      exact Nat.sub_le _ _
    · cases hkeyword
  · split at h
    · next rest hrest =>
      rw [hrest]
      exact (length_number_le h).trans (Nat.le_succ _)
    · exact length_number_le h

end Scalars

/-! ## No reader lengthens what is left -/

variable [LoneHalves]

/-- The readers of values, items and members with some fuel leave no more than they are given. -/
structure Shortens (fuel : ℕ) : Prop where
  value : ∀ {nesting : ℕ} {cursor next : Cursor} {v : Json}, value fuel nesting cursor =
    .ok (v, next) →
    next.rest.length ≤ cursor.rest.length
  elements : ∀ {nesting : ℕ} {seen : List Json} {cursor next : Cursor} {v : Json},
    elements fuel nesting seen cursor = .ok (v, next) → next.rest.length ≤ cursor.rest.length
  members : ∀ {nesting : ℕ} {seen : Members} {cursor next : Cursor} {v : Json},
    members fuel nesting seen cursor = .ok (v, next) → next.rest.length ≤ cursor.rest.length

section Step

variable {fuel nesting : ℕ} {cursor next : Cursor} {v : Json} (h : Shortens fuel)

include h

theorem length_value_le (hread : value (fuel + 1) nesting cursor = .ok (v, next)) :
    next.rest.length ≤ cursor.rest.length := by
  rw [Parser.value] at hread
  split at hread
  · cases hread
  · next rest hrest =>
    split at hread
    · cases hread
    · next s after hstring =>
      cases hread
      rw [hrest]
      exact (length_string_le hstring).trans (Nat.le_succ _)
  · next rest hrest =>
    rw [hrest, List.length_cons]
    split at hread
    · cases hread
    · dsimp only at hread
      split at hread
      · next hclose =>
        cases hread
        exact Nat.le_succ_of_le (Nat.le_of_lt (length_lt_of_skipSpace hclose))
      · exact (h.elements hread).trans (Nat.le_succ_of_le (length_skipSpace_le _ _))
  · next rest hrest =>
    rw [hrest, List.length_cons]
    split at hread
    · cases hread
    · dsimp only at hread
      split at hread
      · next hclose =>
        cases hread
        exact Nat.le_succ_of_le (Nat.le_of_lt (length_lt_of_skipSpace hclose))
      · exact (h.members hread).trans (Nat.le_succ_of_le (length_skipSpace_le _ _))
  · exact length_scalar_le hread

theorem length_elements_le {seen : List Json}
    (hread : elements (fuel + 1) nesting seen cursor = .ok (v, next)) :
    next.rest.length ≤ cursor.rest.length := by
  rw [Parser.elements] at hread
  split at hread
  · cases hread
  · next w after hvalue =>
    have hafter := h.value hvalue
    dsimp only at hread
    split at hread
    · next hclose =>
      cases hread
      exact (Nat.le_of_lt (length_lt_of_skipSpace hclose)).trans hafter
    · next hcomma => exact (h.elements hread).trans ((length_skipSpace_lt hcomma _).le.trans hafter)
    · cases hread

theorem length_members_le {seen : Members}
    (hread : members (fuel + 1) nesting seen cursor = .ok (v, next)) :
    next.rest.length ≤ cursor.rest.length := by
  rw [Parser.members] at hread
  split at hread
  · next rest hrest =>
    split at hread
    · cases hread
    · next name afterName hname =>
      have hafterName : afterName.rest.length < cursor.rest.length := by
        rw [hrest]
        exact Nat.lt_succ_of_le (length_string_le hname)
      dsimp only at hread
      split at hread
      · next hcolon =>
        split at hread
        · cases hread
        · next w after hvalue =>
          have hafter := (h.value hvalue).trans_lt (length_skipSpace_lt hcolon _)
          split at hread
          · next hclose =>
            cases hread
            have hcloseRest := length_lt_of_skipSpace hclose
            dsimp only
            omega
          · next hcomma =>
            have hmore := (h.members hread).trans_lt (length_skipSpace_lt hcomma _)
            omega
          · cases hread
      · cases hread
  · cases hread

end Step

theorem shortens (fuel : ℕ) : Shortens fuel := by
  induction fuel with
  | zero =>
    refine ⟨?_, ?_, ?_⟩
    · intro nesting cursor next v h
      rw [Parser.value] at h
      cases h
    · intro nesting seen cursor next v h
      rw [Parser.elements] at h
      cases h
    · intro nesting seen cursor next v h
      rw [Parser.members] at h
      cases h
  | succ fuel ih => exact ⟨length_value_le ih, length_elements_le ih, length_members_le ih⟩

/-! ## Enough fuel -/

/-- With some fuel, each reader has either too little of it or as much as it needs. -/
structure Settled (fuel : ℕ) : Prop where
  value : ∀ {nesting : ℕ} {cursor : Cursor}, 2 * cursor.rest.length + 2 ≤ fuel →
    value (fuel + 1) nesting cursor = value fuel nesting cursor
  elements : ∀ {nesting : ℕ} {seen : List Json} {cursor : Cursor},
    2 * cursor.rest.length + 3 ≤ fuel →
    elements (fuel + 1) nesting seen cursor = elements fuel nesting seen cursor
  members : ∀ {nesting : ℕ} {seen : Members} {cursor : Cursor}, 2 * cursor.rest.length + 3 ≤ fuel →
    members (fuel + 1) nesting seen cursor = members fuel nesting seen cursor

section Step

variable {fuel nesting : ℕ} {cursor : Cursor} (h : Settled fuel)

include h

theorem value_succ (hfuel : 2 * cursor.rest.length + 2 ≤ fuel + 1) :
    value (fuel + 1 + 1) nesting cursor = value (fuel + 1) nesting cursor := by
  rw [Parser.value]
  conv_rhs => rw [Parser.value]
  split
  · rfl
  · next rest hrest =>
    rw [hrest, List.length_cons] at hfuel
    rw [string_succ (show rest.length < fuel by omega)]
  · next rest hrest =>
    rw [hrest, List.length_cons] at hfuel
    split
    · rfl
    · have hskip := length_skipSpace_le (cursor.pos + 1) rest
      dsimp only
      split
      · rfl
      · exact h.elements (by omega)
  · next rest hrest =>
    rw [hrest, List.length_cons] at hfuel
    split
    · rfl
    · have hskip := length_skipSpace_le (cursor.pos + 1) rest
      dsimp only
      split
      · rfl
      · exact h.members (by omega)
  · rfl

theorem elements_succ {seen : List Json} (hfuel : 2 * cursor.rest.length + 3 ≤ fuel + 1) :
    elements (fuel + 1 + 1) nesting seen cursor = elements (fuel + 1) nesting seen cursor := by
  rw [Parser.elements]
  conv_rhs => rw [Parser.elements]
  rw [h.value (by omega)]
  split
  · rfl
  · next w after hvalue =>
    have hafter := (shortens fuel).value hvalue
    dsimp only
    split
    · rfl
    · next hcomma =>
      have hitem := length_skipSpace_lt hcomma ((skipSpace after.pos after.rest).pos + 1)
      exact h.elements (by omega)
    · rfl

theorem members_succ {seen : Members} (hfuel : 2 * cursor.rest.length + 3 ≤ fuel + 1) :
    members (fuel + 1 + 1) nesting seen cursor = members (fuel + 1) nesting seen cursor := by
  rw [Parser.members]
  conv_rhs => rw [Parser.members]
  split
  · next rest hrest =>
    rw [hrest, List.length_cons] at hfuel
    rw [string_succ (show rest.length < fuel by omega)]
    split
    · rfl
    · next name afterName hname =>
      have hafterName := length_string_le hname
      dsimp only at hafterName ⊢
      split
      · next hcolon =>
        have hitem := length_skipSpace_lt hcolon ((skipSpace afterName.pos afterName.rest).pos + 1)
        rw [h.value (by omega)]
        split
        · rfl
        · next w after hvalue =>
          have hafter := (shortens fuel).value hvalue
          split
          · rfl
          · next hcomma =>
            have hmember := length_skipSpace_lt hcomma ((skipSpace after.pos after.rest).pos + 1)
            exact h.members (by omega)
          · rfl
      · rfl
  · rfl

end Step

theorem settled (fuel : ℕ) : Settled fuel := by
  induction fuel with
  | zero => exact ⟨fun h => by omega, fun h => by omega, fun h => by omega⟩
  | succ fuel ih => exact ⟨value_succ ih, elements_succ ih, members_succ ih⟩

/-- Reads a value with as much fuel as it needs. -/
def readValue (nesting : ℕ) (cursor : Cursor) : Step Json :=
  value (2 * cursor.rest.length + 2) nesting cursor

/-- Reads the name of a member, with its quotes. -/
def readName (cursor : Cursor) : Step String :=
  match cursor.rest with
  | '"' :: rest => string cursor.pos cursor.rest.length [] ⟨cursor.pos + 1, rest⟩
  | _ => .error (.expectingName cursor.pos)

theorem value_eq_readValue {fuel : ℕ} {cursor : Cursor} (h : 2 * cursor.rest.length + 2 ≤ fuel)
    (nesting : ℕ) :
    value fuel nesting cursor = readValue nesting cursor := by
  induction fuel, h using Nat.le_induction with
  | base => rfl
  | succ fuel hfuel ih => rw [(settled fuel).value hfuel, ih]

theorem string_eq_readName {fuel : ℕ} {cursor : Cursor} {rest : List Char}
    (hrest : cursor.rest = '"' :: rest) (h : rest.length < fuel) :
    string cursor.pos fuel [] ⟨cursor.pos + 1, rest⟩ = readName cursor := by
  rw [readName, hrest, List.length_cons]
  induction fuel, Nat.succ_le_of_lt h using Nat.le_induction with
  | base => rfl
  | succ fuel hfuel ih => rw [string_succ hfuel, ih hfuel]

end DartRecords.Json.Parser
