import DartRecords.Json.Basic
import DartRecords.Number.Shortest
import DartRecords.Text.Quoted

/-!
# Display text of JSON values

The form in which messages and generated code show a value: `None`, `True`, `1.5`,
`['a', 2]`, `{'k': 1}`.  Inside a list or an object a text stands in quotes; a text on its own is
shown as it is.
-/

namespace DartRecords.Json

/-- The decimal text of a whole number. -/
def intText (n : Int) : List Char :=
  if n < 0 then '-' :: Nat.toDigits 10 n.natAbs else Nat.toDigits 10 n.natAbs

/-- The names of the special doubles in display text. -/
def displayNames : Binary64.SpecialNames := ⟨"nan".toList, "inf".toList⟩

mutual

/-- The display text of a value that stands inside another one. -/
def quoted : Json → List Char
  | .null => "None".toList
  | .bool b => if b then "True".toList else "False".toList
  | .int n => intText n
  | .real x => x.toText displayNames
  | .str s => Text.quoted s.toList
  | .arr items => '[' :: quotedItems items ++ [']']
  | .obj members => '\x7b' :: quotedMembers members ++ ['\x7d']

/-- The display texts of the items of a list, with separators. -/
def quotedItems : List Json → List Char
  | [] => []
  | [v] => quoted v
  | v :: rest => quoted v ++ ',' :: ' ' :: quotedItems rest

/-- The display texts of the members of an object, with separators. -/
def quotedMembers : List (String × Json) → List Char
  | [] => []
  | [(k, v)] => Text.quoted k.toList ++ ':' :: ' ' :: quoted v
  | (k, v) :: rest =>
    Text.quoted k.toList ++ ':' :: ' ' :: quoted v ++ ',' :: ' ' :: quotedMembers rest

end

/-- The display text of a value, a text in quotes. -/
def quote (v : Json) : String := String.ofList (quoted v)

/-- The display text of a value, a text as it is. -/
def display : Json → String
  | .str s => s
  | v => v.quote

end DartRecords.Json
