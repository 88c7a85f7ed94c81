import DartRecords.Number.Binary64

/-!
# The shortest decimal of a double

Among the decimals that read back as a double, the shortest is the one on the coarsest decimal
grid, and of several on that grid the nearest to the exact value.  Every comparison is made in
exact arithmetic on natural numbers.
-/

namespace DartRecords.Binary64

/-- The decimal `digits * 10 ^ exponent`. -/
structure Decimal where
  digits : Nat
  exponent : Int
  deriving DecidableEq, Repr

/-- The point of the grid of multiples of `10 ^ grid` that reads back as `mantissa * 2 ^ exponent`,
if there is one, and the nearer if there are two.

A quarter of the distance between neighbouring doubles is the unit: the value is `4 * mantissa`
units, and the reals that round to it reach two units up and, below a power of two, one unit
down. Their ends belong to it exactly when the mantissa is even. -/
def onGrid (mantissa : Nat) (exponent grid : Int) : Option Nat :=
  let unit := exponent - 2
  let gridWeight := Nat.pow 10 grid.toNat * Nat.pow 2 (-unit).toNat
  let unitWeight := Nat.pow 10 (-grid).toNat * Nat.pow 2 unit.toNat
  let value := 4 * mantissa * unitWeight
  let below := if mantissa = Nat.pow 2 52 && minExponent < exponent then 1 else 2
  let low := (4 * mantissa - below) * unitWeight
  let high := (4 * mantissa + 2) * unitWeight
  let closed := mantissa % 2 == 0
  let reads (c : Nat) : Bool :=
    let point := c * gridWeight
    0 < c && (if closed then low ≤ point && point ≤ high else low < point && point < high)
  let c := value / gridWeight
  match reads c, reads (c + 1) with
  | true, true =>
    let middle := (2 * c + 1) * gridWeight
    if 2 * value < middle then some c
    else if middle < 2 * value then some (c + 1)
    else if c % 2 == 0 then some c else some (c + 1)
  | true, false => some c
  | false, true => some (c + 1)
  | false, false => none

/-- The first grid with a decimal that reads back, searched from `grid` to finer ones. -/
def searchGrids (mantissa : Nat) (exponent : Int) : Nat → Int → Decimal
  | 0, grid => ⟨mantissa, grid⟩
  | fuel + 1, grid =>
    match onGrid mantissa exponent grid with
    | some digits => ⟨digits, grid⟩
    | none => searchGrids mantissa exponent fuel (grid - 1)

/-- The shortest decimal that reads back as a positive double.  The search starts at a power of
ten above the value; eighteen further grids hold all decimals of seventeen digits. -/
def shortest (mantissa : Nat) (exponent : Int) : Decimal :=
  let bits : Int := Nat.log2 mantissa + 1 + exponent
  searchGrids mantissa exponent 24 (Int.fdiv (bits * 30103) 100000 + 1)

/-- How the text of a number that is no plain decimal is spelt. -/
structure SpecialNames where
  nan : List Char
  infinity : List Char

/-- A decimal in positional notation when its point stands at most sixteen places after the first
digit and at most three places before it, and otherwise with an exponent of at least two digits. -/
def Decimal.toText (d : Decimal) : List Char :=
  let digits := Nat.toDigits 10 d.digits
  let point : Int := digits.length + d.exponent
  if -4 < point && point ≤ 16 then
    if point ≤ 0 then '0' :: '.' :: (List.replicate (-point).toNat '0' ++ digits)
    else if d.exponent < 0 then digits.take point.toNat ++ '.' :: digits.drop point.toNat
    else digits ++ List.replicate d.exponent.toNat '0' ++ ['.', '0']
  else
    let power := point - 1
    let powerDigits := Nat.toDigits 10 power.natAbs
    let powerDigits := if powerDigits.length < 2 then '0' :: powerDigits else powerDigits
    let sign := if power < 0 then '-' else '+'
    let lead := match digits with
      | [] => []
      | [c] => [c]
      | c :: rest => c :: '.' :: rest
    lead ++ 'e' :: sign :: powerDigits

/-- The text of a double: the shortest decimal that reads back, or a special name. -/
def toText (names : SpecialNames) : Binary64 → List Char
  | .nan => names.nan
  | .infinite negative => if negative then '-' :: names.infinity else names.infinity
  | .finite negative mantissa exponent =>
    let body := if mantissa = 0 then ['0', '.', '0'] else (shortest mantissa exponent).toText
    if negative then '-' :: body else body

end DartRecords.Binary64
