import DartRecords.Json.Display
import DartRecords.Json.Parser
import DartRecords.Text.Blank
import DartRecords.Text.Digit

/-!
# Whole numbers from loose values

A value counts as a whole number if it is one, if it is a double, whose fraction is dropped, if
it is a boolean, or if it is a text that spells one.  Such a text may have blanks around it and a
sign, uses the decimal digits of any script, and may have single underscores between digits.
-/

namespace DartRecords.Whole

/-- Brings a character into ASCII: digits of any script become ASCII digits, blanks beyond ASCII
become a space, and every other character beyond ASCII becomes a question mark. -/
def toAscii (c : Char) : Char :=
  if c.toNat < 0x7F then c
  else if Text.isBlank c then ' '
  else match Text.digitValue? c with
    | some d => Char.ofNat ('0'.toNat + d)
    | none => '?'

/-- Whether an ASCII character may stand around a number. -/
def isPadding (c : Char) : Bool := c = ' ' || ('\t'.toNat ≤ c.toNat && c.toNat ≤ '\r'.toNat)

/-- Reads digits with single underscores between them.  `after` tells whether the last character
was an underscore.  Gives the digits and what follows, or none if an underscore is out of place. -/
def digits (after : Bool) : List Char → Option (List Char × List Char)
  | [] => if after then none else some ([], [])
  | c :: rest =>
    if Json.Parser.isDigit c then (digits false rest).map fun (ds, left) => (c :: ds, left)
    else if c = '_' then if after then none else digits true rest
    else if after then none else some ([], c :: rest)

/-- The message about a text that spells no whole number, which shows at most two hundred
characters of it. -/
def badTextMessage (cs : List Char) : String :=
  "invalid literal for int() with base 10: " ++ String.ofList ((Text.quoted cs).take 200)

/-- Reads a text as a whole number. -/
def ofText (cs : List Char) : Except Mismatch Int :=
  let bad : Except Mismatch Int := .error (.badValue (badTextMessage cs))
  let body := (cs.map toAscii).dropWhile isPadding
  let (negative, body) := match body with
    | '-' :: rest => (true, rest)
    | '+' :: rest => (false, rest)
    | _ => (false, body)
  match body with
  | [] => bad
  | c :: _ =>
    if !Json.Parser.isDigit c then bad
    else match digits false body with
      | none => bad
      | some (ds, left) =>
        if Json.maxDigits < ds.length then
          .error (.badValue (Json.tooManyDigitsText ds.length))
        else if !left.all isPadding then bad
        else
          let value : Int := Json.Parser.digitsValue ds
          .ok (if negative then -value else value)

/-- The whole number that a value counts as. -/
def ofJson : Json → Except Mismatch Int
  | .bool b => .ok (if b then 1 else 0)
  | .int n => .ok n
  | .real x =>
    match x with
    | .nan => .error (.badValue "cannot convert float NaN to integer")
    | .infinite _ => .error (.outOfRange "cannot convert float infinity to integer")
    | .finite .. => .ok (x.truncate?.getD 0)
  | .str s => ofText s.toList
  | v => .error (.wrongType ("expected a number, not " ++ v.typeName))

end DartRecords.Whole
