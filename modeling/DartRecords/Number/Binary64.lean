/-!
# Double-precision numbers

A double is kept as its exact value: a sign, a whole mantissa and a power of two.  Reading a
decimal rounds to the nearest double, a tie going to the even mantissa, and is carried out in
exact arithmetic on natural numbers.
-/

namespace DartRecords

/-- A double-precision number.  A finite number has the value `mantissa * 2 ^ exponent`, where
the mantissa has at most 53 bits and has exactly 53 unless the exponent is the least one. -/
inductive Binary64 where
  | nan
  | infinite (negative : Bool)
  | finite (negative : Bool) (mantissa : Nat) (exponent : Int)
  deriving DecidableEq, Repr

namespace Binary64

/-- The least exponent of a finite number. -/
def minExponent : Int := -1074

/-- The greatest exponent of a finite number. -/
def maxExponent : Int := 971

/-- The quotient rounded to the nearest whole number, a tie going to the even one. -/
def roundDiv (num den : Nat) : Nat :=
  let q := num / den
  let r := num % den
  if den < 2 * r || (2 * r == den && q % 2 == 1) then q + 1 else q

/-- A whole number times a power of two, as numerator and denominator. -/
def scale (n : Nat) (exponent : Int) : Nat × Nat :=
  if 0 ≤ exponent then (n * Nat.pow 2 exponent.toNat, 1)
  else (n, Nat.pow 2 (-exponent).toNat)

/-- The double nearest to `num / den`, for positive `num` and `den`. -/
def ofRatio (negative : Bool) (num den : Nat) : Binary64 :=
  let size : Int := (Nat.log2 num : Int) - (Nat.log2 den : Int)
  let quotient (e : Int) (round : Nat → Nat → Nat) : Nat :=
    if 0 ≤ e then round num (den * Nat.pow 2 e.toNat) else round (num * Nat.pow 2 (-e).toNat) den
  let tight := size - 53
  let exponent := if quotient tight (· / ·) < Nat.pow 2 53 then tight else tight + 1
  let exponent := max exponent minExponent
  let mantissa := quotient exponent roundDiv
  let (mantissa, exponent) :=
    if mantissa = Nat.pow 2 53 then (Nat.pow 2 52, exponent + 1) else (mantissa, exponent)
  if exponent > maxExponent then .infinite negative else .finite negative mantissa exponent

/-- Zero with a sign. -/
def zero (negative : Bool) : Binary64 := .finite negative 0 minExponent

/-- The double nearest to `digits * 10 ^ exponent`.  Exponents far outside the range of doubles
are decided by the number of digits, without computing the power. -/
def ofDecimal (negative : Bool) (digits : Nat) (exponent : Int) : Binary64 :=
  if digits = 0 then zero negative
  else
    let magnitude : Int := (Nat.toDigits 10 digits).length + exponent
    if magnitude > 310 then .infinite negative
    else if magnitude < -330 then zero negative
    else if 0 ≤ exponent then ofRatio negative (digits * Nat.pow 10 exponent.toNat) 1
    else ofRatio negative digits (Nat.pow 10 (-exponent).toNat)

/-- Whether the number is zero of either sign. -/
def isZero : Binary64 → Bool
  | .finite _ mantissa _ => mantissa == 0
  | _ => false

/-- The whole part of a finite number, the fraction being dropped. -/
def truncate? : Binary64 → Option Int
  | .finite negative mantissa exponent =>
    let (num, den) := scale mantissa exponent
    let whole : Int := (num / den : Nat)
    some (if negative then -whole else whole)
  | _ => none

/-- The whole number that a finite number is, if it is one. -/
def toInt? : Binary64 → Option Int
  | .finite negative mantissa exponent =>
    let (num, den) := scale mantissa exponent
    if num % den = 0 then
      let whole : Int := (num / den : Nat)
      some (if negative then -whole else whole)
    else none
  | _ => none

/-- Numeric equality: the two zeros are equal, and no NaN is equal to anything. -/
def same : Binary64 → Binary64 → Bool
  | .nan, _ => false
  | _, .nan => false
  | x, y => x == y || (x.isZero && y.isZero)

end Binary64

end DartRecords
