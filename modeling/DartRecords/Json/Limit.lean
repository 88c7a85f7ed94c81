import DartRecords.Json.Parser

/-!
# Whole numbers that are written

A whole number is written only if it has no more digits than a reader converts.
-/

namespace DartRecords.Json

mutual

/-- Whether the whole numbers in a value have no more digits than the reader converts. -/
def fewDigits : Json → Bool
  | .int n => n.natAbs < Nat.pow 10 maxDigits
  | .arr items => itemsFewDigits items
  | .obj members => membersFewDigits members
  | _ => true

/-- Whether the whole numbers in the items of a list are short. -/
def itemsFewDigits : List Json → Bool
  | [] => true
  | v :: rest => fewDigits v && itemsFewDigits rest

/-- Whether the whole numbers in the members of an object are short. -/
def membersFewDigits : List (String × Json) → Bool
  | [] => true
  | (_, v) :: rest => fewDigits v && membersFewDigits rest

end

/-- Refuses a value with a whole number that is too long to be written. -/
def checkDigits (v : Json) : Except Mismatch Unit :=
  if v.fewDigits then .ok () else .error (.badValue "a whole number has too many digits")

end DartRecords.Json
