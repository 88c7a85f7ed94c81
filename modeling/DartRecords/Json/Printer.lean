import DartRecords.Json.Display

/-!
# JSON text

Two written forms of a value: the dense one without any blank, and the indented one with one
member or item per line.  Control characters, the quote and the backslash are escaped and every
other character stands for itself.
-/

namespace DartRecords.Json

/-- The names of the special doubles in JSON text. -/
def jsonNames : Binary64.SpecialNames := ⟨"NaN".toList, "Infinity".toList⟩

/-- One character of a JSON string. -/
def escapeChar (c : Char) : List Char :=
  if c = '"' || c = '\\' then ['\\', c]
  else if c = '\n' then ['\\', 'n']
  else if c = '\r' then ['\\', 'r']
  else if c = '\t' then ['\\', 't']
  else if c = '\x08' then ['\\', 'b']
  else if c = '\x0c' then ['\\', 'f']
  else if c.toNat < 0x20 then '\\' :: 'u' :: Text.hexPadded 4 c.toNat
  else [c]

/-- A text as a JSON string. -/
def stringText (cs : List Char) : List Char := '"' :: cs.flatMap escapeChar ++ ['"']

/-- The text of a value that is neither a list nor an object. -/
def scalarText : Json → List Char
  | .bool b => if b then "true".toList else "false".toList
  | .int n => intText n
  | .real x => x.toText jsonNames
  | .str s => stringText s.toList
  | _ => "null".toList

mutual

/-- The dense text of a value. -/
def dense : Json → List Char
  | .arr items => '[' :: denseItems items ++ [']']
  | .obj members => '\x7b' :: denseMembers members ++ ['\x7d']
  | v => scalarText v

/-- The dense texts of the items of a list, separated by commas. -/
def denseItems : List Json → List Char
  | [] => []
  | [v] => dense v
  | v :: rest => dense v ++ ',' :: denseItems rest

/-- The dense texts of the members of an object, separated by commas. -/
def denseMembers : List (String × Json) → List Char
  | [] => []
  | [(k, v)] => stringText k.toList ++ ':' :: dense v
  | (k, v) :: rest => stringText k.toList ++ ':' :: dense v ++ ',' :: denseMembers rest

end

/-- A new line at a nesting depth, two spaces per level. -/
def newline (depth : Nat) : List Char := '\n' :: List.replicate (2 * depth) ' '

mutual

/-- The indented text of a value at a nesting depth. -/
def indented (depth : Nat) : Json → List Char
  | .arr [] => ['[', ']']
  | .arr (v :: rest) =>
    '[' :: newline (depth + 1) ++ indentedItems (depth + 1) (v :: rest) ++ newline depth ++ [']']
  | .obj [] => ['\x7b', '\x7d']
  | .obj (m :: rest) =>
    '\x7b' :: newline (depth + 1) ++ indentedMembers (depth + 1) (m :: rest)
      ++ newline depth ++ ['\x7d']
  | v => scalarText v

/-- The indented texts of the items of a list, one per line. -/
def indentedItems (depth : Nat) : List Json → List Char
  | [] => []
  | [v] => indented depth v
  | v :: rest => indented depth v ++ ',' :: newline depth ++ indentedItems depth rest

/-- The indented texts of the members of an object, one per line. -/
def indentedMembers (depth : Nat) : List (String × Json) → List Char
  | [] => []
  | [(k, v)] => stringText k.toList ++ ':' :: ' ' :: indented depth v
  | (k, v) :: rest =>
    stringText k.toList ++ ':' :: ' ' :: indented depth v
      ++ ',' :: newline depth ++ indentedMembers depth rest

end

/-- The dense text of a value as a string. -/
def toDense (v : Json) : String := String.ofList v.dense

/-- The indented text of a value as a string. -/
def toIndented (v : Json) : String := String.ofList (v.indented 0)

end DartRecords.Json
