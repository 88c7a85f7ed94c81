import DartRecords.Number.Binary64
import Mathlib.Algebra.Order.Field.Power
import Mathlib.Data.Rat.Cast.Order
import Mathlib.Tactic.Linarith
import Mathlib.Tactic.NormNum
import Mathlib.Tactic.FieldSimp
import Mathlib.Tactic.Positivity
import Mathlib.Tactic.Ring

/-!
# Rounding to the nearest double

A decimal is read by rounding it to a double.  `ReadsAs` has the numbers that a double stands for in
reading: they reach half of the distance to its neighbours, and their ends belong to it if its
mantissa is even.

`Aligned` says at which exponent a number is rounded.  There is only one such exponent
(`Aligned.unique`), and the computation finds it (`aligned_ratioExponent`), so numbers that a double
stands for are read as this double (`ofRatio_of_readsAs`, `ofDecimal_of_readsAs`).  Whatever is read
is a double (`valid_ofDecimal`).
-/

namespace DartRecords.Binary64

/-- A finite double has a mantissa of at most 53 bits, and of exactly 53 unless its exponent is the
least one. -/
def Valid : Binary64 → Prop
  | .finite _ mantissa exponent =>
    mantissa < 2 ^ 53 ∧ minExponent ≤ exponent ∧ exponent ≤ maxExponent ∧
      (2 ^ 52 ≤ mantissa ∨ exponent = minExponent)
  | _ => True

/-! ## Rounding to a whole number -/

/-- The whole number is the nearest one, and the even one of two that are equally near. -/
structure RoundsTo (x : ℚ) (n : ℕ) : Prop where
  low : (n : ℚ) - 1 / 2 ≤ x
  high : x ≤ n + 1 / 2
  odd : n % 2 = 1 → (n : ℚ) - 1 / 2 < x ∧ x < n + 1 / 2

theorem RoundsTo.of_lt {x : ℚ} {n : ℕ} (hlow : (n : ℚ) - 1 / 2 < x) (hhigh : x < n + 1 / 2) :
    RoundsTo x n :=
  ⟨hlow.le, hhigh.le, fun _ => ⟨hlow, hhigh⟩⟩

theorem RoundsTo.of_even {x : ℚ} {n : ℕ} (heven : n % 2 = 0) (hlow : (n : ℚ) - 1 / 2 ≤ x)
    (hhigh : x ≤ n + 1 / 2) :
    RoundsTo x n :=
  ⟨hlow, hhigh, fun hodd => absurd hodd (by omega)⟩

theorem RoundsTo.le {x : ℚ} {n k : ℕ} (hn : RoundsTo x n) (hk : RoundsTo x k) : n ≤ k := by
  by_contra hlt
  have hnext : (k : ℚ) + 1 ≤ n := by exact_mod_cast Nat.lt_of_not_le hlt
  have hlow := hn.low
  have hhigh := hk.high
  obtain rfl : n = k + 1 := by
    have heq : (n : ℚ) = (k + 1 : ℕ) := by
      push_cast
      linarith
    exact_mod_cast heq
  -- Of two neighbours one is odd, and an odd number is not reached from the middle.
  obtain hodd | hodd := Nat.mod_two_eq_zero_or_one k
  · have := (hn.odd (by omega)).1
    linarith
  · have := (hk.odd hodd).2
    linarith

theorem RoundsTo.unique {x : ℚ} {n k : ℕ} (hn : RoundsTo x n) (hk : RoundsTo x k) : n = k :=
  Nat.le_antisymm (hn.le hk) (hk.le hn)

theorem roundsTo_roundDiv (num : ℕ) {den : ℕ} (hden : 0 < den) :
    RoundsTo ((num : ℚ) / den) (roundDiv num den) := by
  have hpos : (0 : ℚ) < den := by exact_mod_cast hden
  have hsplit : (num : ℚ) / den = (num / den : ℕ) + ((num % den : ℕ) : ℚ) / den := by
    have hnum : (num : ℚ) = den * (num / den : ℕ) + (num % den : ℕ) := by
      exact_mod_cast (Nat.div_add_mod num den).symm
    nth_rewrite 1 [hnum]
    field_simp
  have hnonneg : 0 ≤ ((num % den : ℕ) : ℚ) / den := by positivity
  have hlt : ((num % den : ℕ) : ℚ) / den < 1 :=
    (div_lt_one hpos).2 (by exact_mod_cast Nat.mod_lt num hden)
  have hhalf : den < 2 * (num % den) → 1 / 2 < ((num % den : ℕ) : ℚ) / den := fun h => by
    rw [div_lt_div_iff₀ two_pos hpos, one_mul, mul_comm]
    exact_mod_cast h
  have hhalf' : 2 * (num % den) < den → ((num % den : ℕ) : ℚ) / den < 1 / 2 := fun h => by
    rw [div_lt_div_iff₀ hpos two_pos, one_mul, mul_comm]
    exact_mod_cast h
  have hmiddle : 2 * (num % den) = den → ((num % den : ℕ) : ℚ) / den = 1 / 2 := fun h => by
    rw [div_eq_div_iff hpos.ne' two_ne_zero, one_mul, mul_comm]
    exact_mod_cast h
  rw [roundDiv, hsplit]
  generalize ((num % den : ℕ) : ℚ) / den = f at *
  split
  · next hup =>
    simp only [Bool.or_eq_true, decide_eq_true_eq, Bool.and_eq_true, beq_iff_eq] at hup
    obtain hup | ⟨hup, hodd⟩ := hup
    · have := hhalf hup
      exact .of_lt (by push_cast; linarith) (by push_cast; linarith)
    · have := hmiddle hup
      exact .of_even (by omega) (by push_cast; linarith) (by push_cast; linarith)
  · next hdown =>
    simp only [Bool.or_eq_true, decide_eq_true_eq, Bool.and_eq_true, beq_iff_eq, not_or,
      not_and] at hdown
    obtain hless | heq := Nat.lt_or_eq_of_le (Nat.le_of_not_lt hdown.1)
    · have := hhalf' hless
      exact .of_lt (by linarith) (by linarith)
    · have := hmiddle heq
      have := hdown.2 heq
      exact .of_even (by omega) (by linarith) (by linarith)

/-! ## The exponent at which a ratio is rounded -/

/-- The exponent is the least one, or the number has 53 bits before the point if it is measured in
units of that power of two. -/
structure Aligned (x : ℚ) (exponent : ℤ) : Prop where
  minExponent_le : minExponent ≤ exponent
  lt : x / 2 ^ exponent < 2 ^ 53
  le : 2 ^ 52 ≤ x / 2 ^ exponent ∨ exponent = minExponent

theorem div_zpow_succ (x : ℚ) (exponent : ℤ) : x / 2 ^ (exponent + 1) = x / 2 ^ exponent / 2 := by
  rw [zpow_add_one₀ two_ne_zero, div_div]

theorem Aligned.exponent_le {x : ℚ} {a b : ℤ} (hx : 0 < x) (ha : Aligned x a) (hb : Aligned x b) :
    a ≤ b := by
  by_contra hlt
  have hbelow : b + 1 ≤ a := by omega
  obtain hle | heq := ha.le
  · -- Each step up halves the number, and it starts below twice the least one.
    have hpow : (2 : ℚ) ^ (b + 1) ≤ 2 ^ a := zpow_le_zpow_right₀ one_le_two hbelow
    have hhalf : x / 2 ^ a ≤ x / 2 ^ b / 2 := by
      rw [← div_zpow_succ]
      exact div_le_div_of_nonneg_left hx.le (by positivity) hpow
    linarith [hb.lt]
  · have := hb.minExponent_le
    omega

theorem Aligned.unique {x : ℚ} {a b : ℤ} (hx : 0 < x) (ha : Aligned x a) (hb : Aligned x b) :
    a = b :=
  le_antisymm (ha.exponent_le hx hb) (hb.exponent_le hx ha)

/-- A ratio in units of a power of two. -/
def scaledRatio (num den : ℕ) (exponent : ℤ) : ℕ × ℕ :=
  if 0 ≤ exponent then (num, den * Nat.pow 2 exponent.toNat)
    else (num * Nat.pow 2 (-exponent).toNat, den)

/-- The exponent at which a ratio is rounded. -/
def ratioExponent (num den : ℕ) : ℤ :=
  let tight : ℤ := (Nat.log2 num : ℤ) - (Nat.log2 den : ℤ) - 53
  let quotient := (scaledRatio num den tight).1 / (scaledRatio num den tight).2
  max (if quotient < Nat.pow 2 53 then tight else tight + 1) minExponent

/-- The double of a rounded mantissa, which may have one bit too many. -/
def ofRounded (negative : Bool) (mantissa : ℕ) (exponent : ℤ) : Binary64 :=
  let (mantissa, exponent) :=
    if mantissa = Nat.pow 2 53 then (Nat.pow 2 52, exponent + 1) else (mantissa, exponent)
  if exponent > maxExponent then .infinite negative else .finite negative mantissa exponent

theorem ofRatio_eq (negative : Bool) (num den : ℕ) :
    ofRatio negative num den =
      ofRounded negative (roundDiv (scaledRatio num den (ratioExponent num den)).1
        (scaledRatio num den (ratioExponent num den)).2) (ratioExponent num den) := by
  have hscaled : ∀ (exponent : ℤ) (round : ℕ → ℕ → ℕ),
      (if 0 ≤ exponent then round num (den * Nat.pow 2 exponent.toNat)
        else round (num * Nat.pow 2 (-exponent).toNat) den) =
      round (scaledRatio num den exponent).1 (scaledRatio num den exponent).2 := by
    intro exponent round
    rw [scaledRatio]
    split
    · rfl
    · rfl
  simp only [ofRatio, hscaled]
  rfl

theorem scaledRatio_spec (num : ℕ) {den : ℕ} (hden : 0 < den) (exponent : ℤ) :
    0 < (scaledRatio num den exponent).2 ∧
      ((scaledRatio num den exponent).1 : ℚ) / (scaledRatio num den exponent).2 =
        num / den / 2 ^ exponent := by
  rw [scaledRatio]
  split
  · next hexponent =>
    obtain ⟨k, rfl⟩ := Int.eq_ofNat_of_zero_le hexponent
    refine ⟨Nat.mul_pos hden (Nat.pow_pos two_pos), ?_⟩
    rw [Int.toNat_natCast, Nat.pow_eq, zpow_natCast, div_div]
    push_cast
    rfl
  · next hexponent =>
    obtain ⟨k, hk⟩ : ∃ k : ℕ, exponent = -k := ⟨(-exponent).toNat, by omega⟩
    subst hk
    refine ⟨hden, ?_⟩
    rw [neg_neg, Int.toNat_natCast, Nat.pow_eq, zpow_neg, zpow_natCast, div_inv_eq_mul]
    push_cast
    ring

/-- A positive ratio has the size of the powers of two below its parts. -/
theorem ratio_bounds {num den : ℕ} (hnum : 0 < num) (hden : 0 < den) :
    (2 : ℚ) ^ ((Nat.log2 num : ℤ) - Nat.log2 den - 1) < num / den ∧
      (num / den : ℚ) < 2 ^ ((Nat.log2 num : ℤ) - Nat.log2 den + 1) := by
  have hpos : (0 : ℚ) < den := by exact_mod_cast hden
  have hnumLow : (2 : ℚ) ^ Nat.log2 num ≤ num := by exact_mod_cast Nat.log2_self_le hnum.ne'
  have hnumHigh : (num : ℚ) < 2 ^ (Nat.log2 num + 1) := by exact_mod_cast Nat.lt_log2_self
  have hdenLow : (2 : ℚ) ^ Nat.log2 den ≤ den := by exact_mod_cast Nat.log2_self_le hden.ne'
  have hdenHigh : (den : ℚ) < 2 ^ (Nat.log2 den + 1) := by exact_mod_cast Nat.lt_log2_self
  constructor
  · rw [lt_div_iff₀ hpos]
    calc (2 : ℚ) ^ ((Nat.log2 num : ℤ) - Nat.log2 den - 1) * den
        < 2 ^ ((Nat.log2 num : ℤ) - Nat.log2 den - 1) * 2 ^ (Nat.log2 den + 1) := by gcongr
      _ = 2 ^ Nat.log2 num := by
        rw [← zpow_natCast, ← zpow_natCast, ← zpow_add₀ two_ne_zero]
        congr 1
        push_cast
        ring
      _ ≤ num := hnumLow
  · rw [div_lt_iff₀ hpos]
    calc (num : ℚ) < 2 ^ (Nat.log2 num + 1) := hnumHigh
      _ = 2 ^ ((Nat.log2 num : ℤ) - Nat.log2 den + 1) * 2 ^ Nat.log2 den := by
        rw [← zpow_natCast, ← zpow_natCast, ← zpow_add₀ two_ne_zero]
        congr 1
        push_cast
        ring
      _ ≤ 2 ^ ((Nat.log2 num : ℤ) - Nat.log2 den + 1) * den := by gcongr

theorem Aligned.of_bounds {x : ℚ} (hx : 0 < x) {exponent : ℤ} (hlow : 2 ^ 52 ≤ x / 2 ^ exponent)
    (hhigh : x / 2 ^ exponent < 2 ^ 53) : Aligned x (max exponent minExponent) := by
  obtain hle | hlt := le_or_gt minExponent exponent
  · rw [max_eq_left hle]
    exact ⟨hle, hhigh, .inl hlow⟩
  · rw [max_eq_right hlt.le]
    have hpow : (2 : ℚ) ^ exponent ≤ 2 ^ minExponent := zpow_le_zpow_right₀ one_le_two hlt.le
    have hless : x / 2 ^ minExponent ≤ x / 2 ^ exponent :=
      div_le_div_of_nonneg_left hx.le (by positivity) hpow
    exact ⟨le_rfl, lt_of_le_of_lt hless hhigh, .inr rfl⟩

theorem aligned_ratioExponent {num den : ℕ} (hnum : 0 < num) (hden : 0 < den) :
    Aligned (num / den) (ratioExponent num den) := by
  obtain ⟨hlow, hhigh⟩ := ratio_bounds hnum hden
  have hx : (0 : ℚ) < num / den := lt_trans (by positivity) hlow
  rw [ratioExponent]
  generalize htight : (Nat.log2 num : ℤ) - (Nat.log2 den : ℤ) - 53 = tight
  obtain ⟨hpos, hscaled⟩ := scaledRatio_spec num hden tight
  have hsize : (Nat.log2 num : ℤ) - Nat.log2 den = tight + 53 := by omega
  rw [hsize] at hlow hhigh
  have hlow' : 2 ^ 52 ≤ (num / den : ℚ) / 2 ^ tight := by
    rw [le_div_iff₀ (by positivity), ← zpow_natCast, ← zpow_add₀ two_ne_zero]
    refine le_trans (le_of_eq ?_) hlow.le
    congr 1
    push_cast
    ring
  have hhigh' : (num / den : ℚ) / 2 ^ tight < 2 ^ 54 := by
    rw [div_lt_iff₀ (by positivity), ← zpow_natCast, ← zpow_add₀ two_ne_zero]
    refine lt_of_lt_of_le hhigh (le_of_eq ?_)
    congr 1
    push_cast
    ring
  have hquotient : (scaledRatio num den tight).1 / (scaledRatio num den tight).2 < Nat.pow 2 53 ↔
      (num / den : ℚ) / 2 ^ tight < 2 ^ 53 := by
    rw [Nat.div_lt_iff_lt_mul hpos, ← hscaled, div_lt_iff₀ (by exact_mod_cast hpos)]
    norm_cast
  split
  · next hless => exact .of_bounds hx hlow' (hquotient.1 hless)
  · next hless =>
    have hlarge := le_of_not_gt (mt hquotient.2 hless)
    refine .of_bounds hx ?_ ?_
    · rw [div_zpow_succ]
      linarith
    · rw [div_zpow_succ]
      linarith

/-! ## Reading numbers -/

/-- How far the numbers that a double stands for reach below it, in units of its last bit: half of
the distance to the next double, which is nearer below a power of two. -/
def reachBelow (mantissa : ℕ) (exponent : ℤ) : ℚ :=
  if mantissa = 2 ^ 52 ∧ minExponent < exponent then 1 / 4 else 1 / 2

/-- The number is one of those that a double stands for in reading. -/
structure ReadsAs (mantissa : ℕ) (exponent : ℤ) (x : ℚ) : Prop where
  low : mantissa - reachBelow mantissa exponent ≤ x / 2 ^ exponent
  high : x / 2 ^ exponent ≤ mantissa + 1 / 2
  odd : mantissa % 2 = 1 →
    mantissa - reachBelow mantissa exponent < x / 2 ^ exponent ∧ x / 2 ^ exponent < mantissa + 1 / 2

theorem reachBelow_le (mantissa : ℕ) (exponent : ℤ) : reachBelow mantissa exponent ≤ 1 / 2 := by
  rw [reachBelow]
  split
  · norm_num
  · exact le_rfl

theorem reachBelow_pos (mantissa : ℕ) (exponent : ℤ) : 0 < reachBelow mantissa exponent := by
  rw [reachBelow]
  split
  · norm_num
  · norm_num

theorem ReadsAs.of_lt {mantissa : ℕ} {exponent : ℤ} {x : ℚ}
    (hlow : mantissa - reachBelow mantissa exponent < x / 2 ^ exponent)
    (hhigh : x / 2 ^ exponent < mantissa + 1 / 2) :
    ReadsAs mantissa exponent x :=
  ⟨hlow.le, hhigh.le, fun _ => ⟨hlow, hhigh⟩⟩

theorem ReadsAs.roundsTo {mantissa : ℕ} {exponent : ℤ} {x : ℚ} (h : ReadsAs mantissa exponent x) :
    RoundsTo (x / 2 ^ exponent) mantissa := by
  have hreach := reachBelow_le mantissa exponent
  refine ⟨by linarith [h.low], h.high, fun hodd => ?_⟩
  obtain ⟨hlow, hhigh⟩ := h.odd hodd
  exact ⟨by linarith, hhigh⟩

theorem ofRounded_of_lt {negative : Bool} {mantissa : ℕ} {exponent : ℤ}
    (hmantissa : mantissa < 2 ^ 53) (hexponent : exponent ≤ maxExponent) :
    ofRounded negative mantissa exponent = .finite negative mantissa exponent := by
  have hne : mantissa ≠ Nat.pow 2 53 := hmantissa.ne
  simp only [ofRounded, if_neg hne, gt_iff_lt, if_neg (not_lt.2 hexponent)]

/-- Rounding up to the next power of two keeps one bit more than there is place for. -/
theorem ofRounded_carry {negative : Bool} {exponent : ℤ} (hexponent : exponent + 1 ≤ maxExponent) :
    ofRounded negative (2 ^ 53) exponent = .finite negative (2 ^ 52) (exponent + 1) := by
  have heq : 2 ^ 53 = Nat.pow 2 53 := rfl
  simp only [ofRounded, if_pos heq, gt_iff_lt, if_neg (not_lt.2 hexponent)]
  rfl

/-- At the exponent at which it is aligned, a ratio is rounded to a mantissa. -/
theorem ofRatio_of_aligned {negative : Bool} {num den mantissa : ℕ} {exponent : ℤ} (hnum : 0 < num)
    (hden : 0 < den) (haligned : Aligned (num / den) exponent)
    (hrounds : RoundsTo (num / den / 2 ^ exponent) mantissa) :
    ofRatio negative num den = ofRounded negative mantissa exponent := by
  have hx : (0 : ℚ) < num / den := by positivity
  rw [ofRatio_eq, (aligned_ratioExponent hnum hden).unique hx haligned]
  obtain ⟨hpos, hscaled⟩ := scaledRatio_spec num hden exponent
  rw [← hscaled] at hrounds
  rw [(roundsTo_roundDiv _ hpos).unique hrounds]

/-- A ratio that a double stands for is read as this double. -/
theorem ofRatio_of_readsAs {negative : Bool} {num den mantissa : ℕ} {exponent : ℤ} (hnum : 0 < num)
    (hden : 0 < den) (hvalid : (finite negative mantissa exponent).Valid)
    (h : ReadsAs mantissa exponent (num / den)) :
    ofRatio negative num den = .finite negative mantissa exponent := by
  obtain ⟨hmantissa, hmin, hmax, hnormal⟩ := hvalid
  have hcast : (mantissa : ℚ) + 1 ≤ 2 ^ 53 := by exact_mod_cast hmantissa
  have hlt : (num / den / 2 ^ exponent : ℚ) < 2 ^ 53 := by linarith [h.high]
  by_cases hbits : 2 ^ 52 ≤ (num / den / 2 ^ exponent : ℚ) ∨ exponent = minExponent
  · rw [ofRatio_of_aligned hnum hden ⟨hmin, hlt, hbits⟩ h.roundsTo, ofRounded_of_lt hmantissa hmax]
  · -- The number is below the power of two that it is rounded up to, so it is aligned one step
    -- lower.
    rw [not_or, not_le] at hbits
    obtain ⟨hbelow, hexponent⟩ := hbits
    have hlarge : 2 ^ 52 ≤ mantissa := hnormal.resolve_right hexponent
    obtain rfl : mantissa = 2 ^ 52 := by
      by_contra hne
      have hnext : (2 : ℚ) ^ 52 + 1 ≤ mantissa := by
        exact_mod_cast lt_of_le_of_ne hlarge (Ne.symm hne)
      linarith [h.low, reachBelow_le mantissa exponent]
    have hlow := h.low
    rw [reachBelow, if_pos ⟨rfl, lt_of_le_of_ne hmin (Ne.symm hexponent)⟩] at hlow
    push_cast at hlow
    obtain ⟨below, rfl⟩ : ∃ below, exponent = below + 1 := ⟨exponent - 1, by omega⟩
    rw [div_zpow_succ] at hbelow hlow
    have haligned : Aligned (num / den) below := by
      refine ⟨?_, by linarith, .inl (by linarith)⟩
      have := lt_of_le_of_ne hmin (Ne.symm hexponent)
      omega
    have hrounds : RoundsTo (num / den / 2 ^ below) (2 ^ 53) :=
      .of_even rfl (by push_cast; linarith) (by push_cast; linarith)
    rw [ofRatio_of_aligned hnum hden haligned hrounds, ofRounded_carry hmax]

/-! ## Reading decimals -/

/-- A positive number has as many digits as its size says. -/
theorem digits_bounds {digits : ℕ} (hdigits : 0 < digits) :
    (10 : ℚ) ^ ((Nat.toDigits 10 digits).length - 1 : ℤ) ≤ digits ∧
      (digits : ℚ) < 10 ^ ((Nat.toDigits 10 digits).length : ℤ) := by
  have hlength : 0 < (Nat.toDigits 10 digits).length := Nat.length_toDigits_pos
  constructor
  · obtain ⟨k, hk⟩ : ∃ k, (Nat.toDigits 10 digits).length = k + 1 :=
      ⟨_, (Nat.sub_add_cancel hlength).symm⟩
    rw [hk, Nat.cast_add, Nat.cast_one, add_sub_cancel_right, zpow_natCast]
    have hle : 10 ^ k ≤ digits := by
      cases k with
      | zero => exact hdigits
      | succ k =>
        by_contra hlt
        have := (Nat.length_toDigits_le_iff (by decide) k.succ_pos).2 (lt_of_not_ge hlt)
        omega
    exact_mod_cast hle
  · rw [zpow_natCast]
    exact_mod_cast (Nat.length_toDigits_le_iff (by decide) hlength).1 le_rfl

/-- A power of ten has more than 93 bits for each 28 digits. -/
theorem two_pow_lt_ten_pow {bits digits : ℕ} (hdigits : 0 < digits) (h : 28 * bits ≤ 93 * digits) :
    (2 : ℚ) ^ bits < 10 ^ digits := by
  refine lt_of_pow_lt_pow_left₀ 28 (by positivity) ?_
  calc ((2 : ℚ) ^ bits) ^ 28 = 2 ^ (28 * bits) := by rw [← pow_mul, mul_comm]
    _ ≤ 2 ^ (93 * digits) := pow_le_pow_right₀ one_le_two h
    _ = (2 ^ 93) ^ digits := pow_mul _ _ _
    _ < (10 ^ 28) ^ digits := pow_lt_pow_left₀ (by norm_num) (by positivity) hdigits.ne'
    _ = (10 ^ digits) ^ 28 := by rw [← pow_mul, ← pow_mul, mul_comm]

/-- What a positive double stands for is within the range of doubles. -/
theorem ReadsAs.bounds {negative : Bool} {mantissa : ℕ} {exponent : ℤ} {x : ℚ}
    (h : ReadsAs mantissa exponent x) (hvalid : (finite negative mantissa exponent).Valid)
    (hpos : 0 < mantissa) :
    (10 : ℚ) ^ (-330 : ℤ) < x ∧ x < 10 ^ (310 : ℤ) := by
  obtain ⟨hmantissa, hmin, hmax, -⟩ := hvalid
  have hone : (1 : ℚ) ≤ mantissa := by exact_mod_cast hpos
  have hcast : (mantissa : ℚ) + 1 ≤ 2 ^ 53 := by exact_mod_cast hmantissa
  have hunit : (0 : ℚ) < 2 ^ exponent := by positivity
  have hx : x / 2 ^ exponent * 2 ^ exponent = x := div_mul_cancel₀ x hunit.ne'
  have hlow : (2 : ℚ) ^ (-1075 : ℤ) ≤ x := by
    have hhalf : 1 / 2 ≤ x / 2 ^ exponent := by linarith [h.low, reachBelow_le mantissa exponent]
    have hleast : (2 : ℚ) ^ (-1074 : ℤ) ≤ 2 ^ exponent := zpow_le_zpow_right₀ one_le_two hmin
    calc (2 : ℚ) ^ (-1075 : ℤ) = 1 / 2 * 2 ^ (-1074 : ℤ) := by
          rw [show (-1075 : ℤ) = -1 + -1074 by norm_num, zpow_add₀ two_ne_zero,
            zpow_neg_one, one_div]
      _ ≤ x / 2 ^ exponent * 2 ^ exponent := by gcongr
      _ = x := hx
  have hhigh : x < (2 : ℚ) ^ (1024 : ℤ) := by
    have hbits : x / 2 ^ exponent < 2 ^ 53 := by linarith [h.high]
    have hgreatest : (2 : ℚ) ^ exponent ≤ 2 ^ (971 : ℤ) := zpow_le_zpow_right₀ one_le_two hmax
    calc x = x / 2 ^ exponent * 2 ^ exponent := hx.symm
      _ < 2 ^ 53 * 2 ^ exponent := by gcongr
      _ ≤ 2 ^ 53 * 2 ^ (971 : ℤ) := by gcongr
      _ = 2 ^ (1024 : ℤ) := by rw [← zpow_natCast, ← zpow_add₀ two_ne_zero]; rfl
  refine ⟨lt_of_lt_of_le ?_ hlow, lt_trans hhigh ?_⟩
  · rw [zpow_neg, zpow_neg, zpow_ofNat, zpow_ofNat]
    exact inv_strictAnti₀ (by positivity) (two_pow_lt_ten_pow (by decide) (by decide))
  · rw [zpow_ofNat, zpow_ofNat]
    exact two_pow_lt_ten_pow (by decide) (by decide)

/-- A decimal that a double stands for is read as this double. -/
theorem ofDecimal_of_readsAs {negative : Bool} {digits mantissa : ℕ} {power exponent : ℤ}
    (hdigits : 0 < digits) (hvalid : (finite negative mantissa exponent).Valid)
    (hpos : 0 < mantissa) (h : ReadsAs mantissa exponent (digits * 10 ^ power)) :
    ofDecimal negative digits power = .finite negative mantissa exponent := by
  obtain ⟨hsmall, hlarge⟩ := h.bounds hvalid hpos
  obtain ⟨hlow, hhigh⟩ := digits_bounds hdigits
  generalize hlength : (Nat.toDigits 10 digits).length = length at hlow hhigh
  have hpower : (0 : ℚ) < 10 ^ power := by positivity
  have hle : (length : ℤ) + power ≤ 310 := by
    have hlt : (10 : ℚ) ^ (length - 1 + power : ℤ) < 10 ^ (310 : ℤ) := by
      rw [zpow_add₀ (by norm_num)]
      exact lt_of_le_of_lt (by gcongr) hlarge
    have := (zpow_lt_zpow_iff_right₀ (by norm_num)).1 hlt
    omega
  have hge : -330 ≤ (length : ℤ) + power := by
    have hlt : (10 : ℚ) ^ (-330 : ℤ) < 10 ^ (length + power : ℤ) := by
      rw [zpow_add₀ (by norm_num)]
      exact lt_trans hsmall (by gcongr)
    have := (zpow_lt_zpow_iff_right₀ (by norm_num)).1 hlt
    omega
  rw [ofDecimal, if_neg hdigits.ne']
  simp only [hlength, gt_iff_lt, if_neg (not_lt.2 hle), if_neg (not_lt.2 hge)]
  split
  · next hsign =>
    obtain ⟨k, rfl⟩ := Int.eq_ofNat_of_zero_le hsign
    rw [Int.toNat_natCast, Nat.pow_eq]
    refine ofRatio_of_readsAs (by positivity) one_pos hvalid ?_
    rw [zpow_natCast] at h
    push_cast
    rwa [div_one]
  · next hsign =>
    obtain ⟨k, hk⟩ : ∃ k : ℕ, power = -k := ⟨(-power).toNat, by omega⟩
    subst hk
    rw [neg_neg, Int.toNat_natCast, Nat.pow_eq]
    refine ofRatio_of_readsAs hdigits (by positivity) hvalid ?_
    rw [zpow_neg, zpow_natCast, ← div_eq_mul_inv] at h
    push_cast
    exact h

/-! ## What is read is a double -/

theorem valid_ofRounded (negative : Bool) {mantissa : ℕ} {exponent : ℤ}
    (hmantissa : mantissa ≤ 2 ^ 53) (hmin : minExponent ≤ exponent)
    (hnormal : 2 ^ 52 ≤ mantissa ∨ exponent = minExponent) :
    (ofRounded negative mantissa exponent).Valid := by
  obtain rfl | hlt := Nat.eq_or_lt_of_le hmantissa
  · obtain hle | hgt := le_or_gt (exponent + 1) maxExponent
    · rw [ofRounded_carry hle]
      exact ⟨by decide, by omega, hle, .inl le_rfl⟩
    · have hinfinite : ofRounded negative (2 ^ 53) exponent = .infinite negative := if_pos hgt
      rw [hinfinite]
      trivial
  · obtain hle | hgt := le_or_gt exponent maxExponent
    · rw [ofRounded_of_lt hlt hle]
      exact ⟨hlt, hmin, hle, hnormal⟩
    · have hne : mantissa ≠ Nat.pow 2 53 := hlt.ne
      simp only [ofRounded, if_neg hne, gt_iff_lt, if_pos hgt]
      trivial

theorem valid_ofRatio (negative : Bool) {num den : ℕ} (hnum : 0 < num) (hden : 0 < den) :
    (ofRatio negative num den).Valid := by
  have haligned := aligned_ratioExponent hnum hden
  rw [ofRatio_eq]
  generalize ratioExponent num den = exponent at haligned
  obtain ⟨hpos, hscaled⟩ := scaledRatio_spec num hden exponent
  have hrounds := roundsTo_roundDiv (scaledRatio num den exponent).1 hpos
  rw [hscaled] at hrounds
  generalize roundDiv _ _ = mantissa at hrounds
  refine valid_ofRounded negative ?_ haligned.minExponent_le (haligned.le.imp_left fun hle => ?_)
  · have hlt : (mantissa : ℚ) < (2 ^ 53 : ℕ) + 1 := by
      push_cast
      linarith [hrounds.low, haligned.lt]
    exact Nat.lt_succ_iff.1 (by exact_mod_cast hlt)
  · have hlt : ((2 ^ 52 : ℕ) : ℚ) < mantissa + 1 := by
      push_cast
      linarith [hrounds.high]
    exact Nat.lt_succ_iff.1 (by exact_mod_cast hlt)

theorem valid_zero (negative : Bool) : (zero negative).Valid :=
  ⟨by decide, le_rfl, by decide, .inr rfl⟩

theorem valid_ofDecimal (negative : Bool) (digits : ℕ) (power : ℤ) :
    (ofDecimal negative digits power).Valid := by
  simp only [ofDecimal]
  split_ifs with hdigits
  · exact valid_zero negative
  · trivial
  · exact valid_zero negative
  · exact valid_ofRatio negative
      (Nat.mul_pos (Nat.pos_of_ne_zero hdigits) (Nat.pow_pos (by decide))) one_pos
  · exact valid_ofRatio negative (Nat.pos_of_ne_zero hdigits) (Nat.pow_pos (by decide))

end DartRecords.Binary64
