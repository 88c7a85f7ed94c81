import DartRecords.Text.CaseTable

/-!
# Changing case

Lowercase, uppercase and capitalised forms of a text.  A character may become several characters,
and a capital sigma becomes the final form exactly when a cased letter comes before it and none
after it, characters without case information being skipped on both sides.
-/

namespace DartRecords.Text

/-- Applies the first run that covers the code point. -/
def shiftBy (runs : List CaseRun) (c : Char) : Char :=
  match runs.find? (·.covers c.toNat) with
  | some run => Char.ofNat (c.toNat + run.shift).toNat
  | none => c

/-- The mapping of a character by a table of special cases, or by runs. -/
def mapCase (special : List (Nat × List Nat)) (runs : List CaseRun) (c : Char) : List Char :=
  match special.lookup c.toNat with
  | some codes => codes.map Char.ofNat
  | none => [shiftBy runs c]

/-- The lowercase form of a character that stands alone. -/
def lowerChar (c : Char) : List Char :=
  if c.toNat < 0x80 then [c.toLower] else mapCase lowerSpecial lowerRuns c

/-- The uppercase form of a character. -/
def upperChar (c : Char) : List Char :=
  if c.toNat < 0x80 then [c.toUpper] else mapCase upperSpecial upperRuns c

/-- The titlecase form of a character. -/
def titleChar (c : Char) : List Char :=
  if c.toNat < 0x80 then [c.toUpper]
  else match titleSpecial.lookup c.toNat with
    | some codes => codes.map Char.ofNat
    | none => upperChar c

/-- Whether the nearest character that is not skipped is a cased letter. -/
def meetsCased (cs : List Char) : Bool :=
  match cs.dropWhile fun c => inRanges caseIgnorableRanges c.toNat with
  | [] => false
  | c :: _ => inRanges casedRanges c.toNat

/-- Lowercases a text of which `before` has been read, its last character first. -/
def lowerAfter (before : List Char) : List Char → List Char
  | [] => []
  | c :: rest =>
    let here :=
      if c = 'Σ' then [if meetsCased before && !meetsCased rest then 'ς' else 'σ']
      else lowerChar c
    here ++ lowerAfter (c :: before) rest

/-- The lowercase form of a text. -/
def lower (cs : List Char) : List Char := lowerAfter [] cs

/-- The uppercase form of a text. -/
def upper (cs : List Char) : List Char := cs.flatMap upperChar

/-- The text with its first character in titlecase and the others in lowercase. -/
def capitalize : List Char → List Char
  | [] => []
  | c :: rest => titleChar c ++ lowerAfter [c] rest

end DartRecords.Text
