import DartRecords.Number.Shortest
import DartRecords.Proofs.Rounding

/-!
# The shortest decimal reads back

The digits of a double are searched on finer and finer decimal grids.  A point of a grid is taken if
it is one of the numbers that the double stands for (`readsOnGrid_iff`).  On a grid that is finer
than half of the last bit there is such a point (`exists_onGrid`), and the search gets that far
(`lastGrid_fine`), so what it finds is read as the double (`readsAs_shortest`).
-/

namespace DartRecords.Binary64

/-! ## The points of a grid -/

/-- The distance of two points of a grid, measured so that it and a quarter of the last bit are
whole numbers. -/
def gridWeight (exponent grid : ℤ) : ℕ := Nat.pow 10 grid.toNat * Nat.pow 2 (-(exponent - 2)).toNat

/-- A quarter of the last bit in the same measure. -/
def unitWeight (exponent grid : ℤ) : ℕ := Nat.pow 10 (-grid).toNat * Nat.pow 2 (exponent - 2).toNat

/-- How many quarters of the last bit the numbers that a double stands for reach below it. -/
def quartersBelow (mantissa : ℕ) (exponent : ℤ) : ℕ :=
  if mantissa = Nat.pow 2 52 && minExponent < exponent then 1 else 2

/-- Whether a point of a grid is taken. -/
def readsOnGrid (mantissa : ℕ) (exponent grid : ℤ) (c : ℕ) : Bool :=
  let low := (4 * mantissa - quartersBelow mantissa exponent) * unitWeight exponent grid
  let high := (4 * mantissa + 2) * unitWeight exponent grid
  let point := c * gridWeight exponent grid
  0 < c && (if mantissa % 2 == 0 then low ≤ point && point ≤ high else low < point && point < high)

/-- The last point of a grid that is not above a double. -/
def pointBelow (mantissa : ℕ) (exponent grid : ℤ) : ℕ :=
  4 * mantissa * unitWeight exponent grid / gridWeight exponent grid

/-- A point is found exactly if one of the two next to the double is taken. -/
theorem onGrid_cases (mantissa : ℕ) (exponent grid : ℤ) :
    (∃ c, onGrid mantissa exponent grid = some c ∧ readsOnGrid mantissa exponent grid c = true) ∨
      (onGrid mantissa exponent grid = none ∧
        readsOnGrid mantissa exponent grid (pointBelow mantissa exponent grid + 1) = false) := by
  rw [onGrid]
  split
  · next hbelow habove =>
    dsimp only
    split_ifs
    · exact .inl ⟨_, rfl, hbelow⟩
    · exact .inl ⟨_, rfl, habove⟩
    · exact .inl ⟨_, rfl, hbelow⟩
    · exact .inl ⟨_, rfl, habove⟩
  · next hbelow _ => exact .inl ⟨_, rfl, hbelow⟩
  · next _ habove => exact .inl ⟨_, rfl, habove⟩
  · next _ habove => exact .inr ⟨rfl, habove⟩

theorem gridWeight_pos (exponent grid : ℤ) : 0 < gridWeight exponent grid :=
  Nat.mul_pos (Nat.pow_pos (by decide)) (Nat.pow_pos (by decide))

theorem unitWeight_pos (exponent grid : ℤ) : 0 < unitWeight exponent grid :=
  Nat.mul_pos (Nat.pow_pos (by decide)) (Nat.pow_pos (by decide))

theorem pow_toNat_eq {base : ℚ} (hbase : base ≠ 0) (n : ℤ) :
    base ^ n.toNat = base ^ n * base ^ (-n).toNat := by
  rw [← zpow_natCast, ← zpow_natCast, ← zpow_add₀ hbase]
  congr 1
  omega

/-- The weights measure a point of the grid in quarters of the last bit. -/
theorem gridWeight_eq (exponent grid : ℤ) :
    (gridWeight exponent grid : ℚ) = 4 * (10 ^ grid / 2 ^ exponent) * unitWeight exponent grid := by
  have hten := pow_toNat_eq (show (10 : ℚ) ≠ 0 by norm_num) grid
  have htwo := pow_toNat_eq (show (2 : ℚ) ≠ 0 by norm_num) (exponent - 2)
  rw [gridWeight, unitWeight, Nat.pow_eq, Nat.pow_eq, Nat.pow_eq, Nat.pow_eq]
  push_cast
  rw [hten, htwo, zpow_sub₀ two_ne_zero]
  field_simp
  norm_num

section Compare

variable {exponent grid : ℤ} {c k : ℕ}

theorem mul_unitWeight_le_iff : k * unitWeight exponent grid ≤ c * gridWeight exponent grid ↔
    (k : ℚ) / 4 ≤ c * 10 ^ grid / 2 ^ exponent := by
  have hpos : (0 : ℚ) < unitWeight exponent grid := by exact_mod_cast unitWeight_pos exponent grid
  have hcast : k * unitWeight exponent grid ≤ c * gridWeight exponent grid ↔
      (k * unitWeight exponent grid : ℚ) ≤ c * gridWeight exponent grid := by norm_cast
  rw [hcast, gridWeight_eq, ← mul_assoc, mul_le_mul_iff_left₀ hpos, div_le_iff₀ (by norm_num)]
  ring_nf

theorem mul_gridWeight_le_iff : c * gridWeight exponent grid ≤ k * unitWeight exponent grid ↔
    (c * 10 ^ grid / 2 ^ exponent : ℚ) ≤ k / 4 := by
  have hpos : (0 : ℚ) < unitWeight exponent grid := by exact_mod_cast unitWeight_pos exponent grid
  have hcast : c * gridWeight exponent grid ≤ k * unitWeight exponent grid ↔
      (c * gridWeight exponent grid : ℚ) ≤ k * unitWeight exponent grid := by norm_cast
  rw [hcast, gridWeight_eq, ← mul_assoc, mul_le_mul_iff_left₀ hpos, le_div_iff₀ (by norm_num)]
  ring_nf

end Compare

theorem quartersBelow_eq (mantissa : ℕ) (exponent : ℤ) :
    (quartersBelow mantissa exponent : ℚ) = 4 * reachBelow mantissa exponent := by
  simp only [quartersBelow, reachBelow, Bool.and_eq_true, decide_eq_true_eq, Nat.pow_eq]
  split
  · norm_num
  · norm_num

/-- A point of a grid is taken exactly if it is one of the numbers that the double stands for. -/
theorem readsOnGrid_iff {mantissa c : ℕ} {exponent grid : ℤ} (hmantissa : 0 < mantissa) :
    readsOnGrid mantissa exponent grid c = true ↔
      0 < c ∧ ReadsAs mantissa exponent (c * 10 ^ grid) := by
  have hlow : ((4 * mantissa - quartersBelow mantissa exponent : ℕ) : ℚ) / 4 =
      mantissa - reachBelow mantissa exponent := by
    have hle : quartersBelow mantissa exponent ≤ 4 * mantissa := by
      rw [quartersBelow]
      split
      · omega
      · omega
    rw [Nat.cast_sub hle, quartersBelow_eq]
    push_cast
    ring
  have hhigh : ((4 * mantissa + 2 : ℕ) : ℚ) / 4 = mantissa + 1 / 2 := by
    push_cast
    ring
  rw [readsOnGrid]
  simp only [Bool.and_eq_true, decide_eq_true_eq]
  refine and_congr_right fun _ => ?_
  split
  · next heven =>
    simp only [beq_iff_eq] at heven
    simp only [Bool.and_eq_true, decide_eq_true_eq, mul_unitWeight_le_iff, mul_gridWeight_le_iff,
      hlow, hhigh]
    exact ⟨fun h => ⟨h.1, h.2, fun hodd => absurd hodd (by omega)⟩, fun h => ⟨h.low, h.high⟩⟩
  · next hodd =>
    simp only [beq_iff_eq] at hodd
    simp only [Bool.and_eq_true, decide_eq_true_eq, ← not_le, mul_unitWeight_le_iff,
      mul_gridWeight_le_iff, hlow, hhigh]
    simp only [not_le]
    exact ⟨fun h => ⟨h.1.le, h.2.le, fun _ => h⟩, fun h => h.odd (by omega)⟩

/-! ## The search -/

/-- A grid that is finer than half of the last bit has a point that is read as the double. -/
theorem exists_onGrid {mantissa : ℕ} {exponent grid : ℤ} (hmantissa : 0 < mantissa)
    (hfine : (10 : ℚ) ^ grid < 2 ^ (exponent - 1)) :
    ∃ c, onGrid mantissa exponent grid = some c := by
  obtain ⟨c, hc, -⟩ | ⟨-, hnone⟩ := onGrid_cases mantissa exponent grid
  · exact ⟨c, hc⟩
  -- The next point above the double is nearer to it than half of the last bit.
  have hbelow : (pointBelow mantissa exponent grid : ℚ) * 10 ^ grid / 2 ^ exponent ≤ mantissa := by
    have hle : pointBelow mantissa exponent grid * gridWeight exponent grid ≤
        4 * mantissa * unitWeight exponent grid := Nat.div_mul_le_self _ _
    have := mul_gridWeight_le_iff.1 hle
    push_cast at this
    linarith
  have habove : (mantissa : ℚ) < (pointBelow mantissa exponent grid + 1 : ℕ) *
      10 ^ grid / 2 ^ exponent := by
    have hlt : 4 * mantissa * unitWeight exponent grid <
        (pointBelow mantissa exponent grid + 1) * gridWeight exponent grid :=
      (Nat.div_lt_iff_lt_mul (gridWeight_pos exponent grid)).1 (Nat.lt_succ_self _)
    have := lt_of_not_ge (mt mul_gridWeight_le_iff.2 (Nat.not_le_of_lt hlt))
    push_cast at this ⊢
    linarith
  have hstep : (10 : ℚ) ^ grid / 2 ^ exponent < 1 / 2 := by
    rw [div_lt_iff₀ (by positivity), one_div, mul_comm, ← zpow_sub_one₀ (two_ne_zero' ℚ)]
    exact hfine
  have hreads :
      readsOnGrid mantissa exponent grid (pointBelow mantissa exponent grid + 1) = true := by
    refine (readsOnGrid_iff hmantissa).2 ⟨Nat.succ_pos _,
      .of_lt (by linarith [reachBelow_pos mantissa exponent]) ?_⟩
    push_cast
    rw [add_mul, one_mul, add_div]
    linarith
  exact absurd (hreads.symm.trans hnone) (by decide)

/-- A search that reaches a grid with a point to take ends with one. -/
theorem onGrid_searchGrids {mantissa : ℕ} {exponent : ℤ} {fuel : ℕ} {grid : ℤ} {steps : ℕ}
    (hsteps : steps < fuel) (h : ∃ c, onGrid mantissa exponent (grid - steps) = some c) :
    onGrid mantissa exponent (searchGrids mantissa exponent fuel grid).exponent =
      some (searchGrids mantissa exponent fuel grid).digits := by
  induction fuel generalizing grid steps with
  | zero => exact absurd hsteps (Nat.not_lt_zero _)
  | succ fuel ih =>
    rw [searchGrids]
    split
    · next digits hdigits => exact hdigits
    · next hnone =>
      cases steps with
      | zero =>
        obtain ⟨c, hc⟩ := h
        rw [Nat.cast_zero, sub_zero, hnone] at hc
        cases hc
      | succ steps =>
        refine ih (Nat.lt_of_succ_lt_succ hsteps) ?_
        rwa [Nat.cast_succ, add_comm, ← sub_sub] at h

/-- A power of ten has less than ten bits for each three digits. -/
theorem ten_pow_lt_two_pow {digits bits : ℕ} (h : 10 * digits < 3 * bits) :
    (10 : ℚ) ^ digits < 2 ^ bits := by
  refine lt_of_pow_lt_pow_left₀ 3 (by positivity) ?_
  calc ((10 : ℚ) ^ digits) ^ 3 = (10 ^ 3) ^ digits := by rw [← pow_mul, ← pow_mul, mul_comm]
    _ ≤ (2 ^ 10) ^ digits := pow_le_pow_left₀ (by norm_num) (by norm_num) digits
    _ = 2 ^ (10 * digits) := (pow_mul _ _ _).symm
    _ < 2 ^ (3 * bits) := pow_lt_pow_right₀ one_lt_two h
    _ = (2 ^ bits) ^ 3 := by rw [← pow_mul, mul_comm]

/-- The last grid of the search is finer than half of the last bit. -/
theorem lastGrid_fine {negative : Bool} {mantissa : ℕ} {exponent : ℤ}
    (hvalid : (finite negative mantissa exponent).Valid) (hmantissa : 0 < mantissa) :
    (10 : ℚ) ^ (Int.fdiv ((Nat.log2 mantissa + 1 + exponent) * 30103) 100000 + 1 - (23 : ℕ)) < 2 ^
    (exponent - 1) := by
  obtain ⟨hbits, hmin, hmax, -⟩ := hvalid
  have hlog : Nat.log2 mantissa < 53 := (Nat.log2_lt hmantissa.ne').2 hbits
  have hmin' : -1074 ≤ exponent := hmin
  have hmax' : exponent ≤ 971 := hmax
  rw [Int.fdiv_eq_ediv_of_nonneg _ (by decide)]
  generalize hgrid : ((Nat.log2 mantissa : ℤ) + 1 + exponent) * 30103 / 100000 + 1 - (23 : ℕ) = grid
  obtain hsign | hsign := le_or_gt 0 grid
  · obtain ⟨digits, rfl⟩ := Int.eq_ofNat_of_zero_le hsign
    obtain ⟨bits, hexponent⟩ : ∃ bits : ℕ, exponent - 1 = bits := ⟨(exponent - 1).toNat, by omega⟩
    rw [hexponent, zpow_natCast, zpow_natCast]
    exact ten_pow_lt_two_pow (by omega)
  obtain ⟨digits, rfl⟩ : ∃ digits : ℕ, grid = -digits := ⟨grid.natAbs, by omega⟩
  obtain hlarge | hsmall := le_or_gt 1 exponent
  · calc (10 : ℚ) ^ (-digits : ℤ) < 1 := zpow_lt_one_of_neg₀ (by norm_num) hsign
      _ ≤ 2 ^ (exponent - 1) := one_le_zpow₀ one_le_two (by omega)
  · obtain ⟨bits, hexponent⟩ : ∃ bits : ℕ, exponent - 1 = -bits := ⟨(1 - exponent).toNat, by omega⟩
    rw [hexponent, zpow_neg, zpow_neg, zpow_natCast, zpow_natCast]
    exact inv_strictAnti₀ (by positivity) (two_pow_lt_ten_pow (by omega) (by omega))

/-- The shortest decimal of a double is one of the numbers that it stands for. -/
theorem readsAs_shortest {negative : Bool} {mantissa : ℕ} {exponent : ℤ}
    (hvalid : (finite negative mantissa exponent).Valid) (hmantissa : 0 < mantissa) :
    0 < (shortest mantissa exponent).digits ∧
      ReadsAs mantissa exponent ((shortest mantissa exponent).digits *
        10 ^ (shortest mantissa exponent).exponent) := by
  have hfound := onGrid_searchGrids (show 23 < 24 by decide)
    (exists_onGrid hmantissa (lastGrid_fine hvalid hmantissa))
  obtain ⟨c, hc, hreads⟩ | ⟨hnone, -⟩ :=
    onGrid_cases mantissa exponent (shortest mantissa exponent).exponent
  · cases hfound.symm.trans hc
    exact (readsOnGrid_iff hmantissa).1 hreads
  · cases hfound.symm.trans hnone

end DartRecords.Binary64
