/-!
# Searching text
-/

namespace DartRecords.Text

/-- Whether a text occurs in another. -/
def occursIn (needle : List Char) : List Char → Bool
  | [] => needle.isEmpty
  | c :: rest => needle.isPrefixOf (c :: rest) || occursIn needle rest

/-- Replaces the first occurrence of a text that is not empty. -/
def replaceFirst (needle replacement : List Char) : List Char → List Char
  | [] => []
  | c :: rest =>
    if needle.isPrefixOf (c :: rest) then replacement ++ (c :: rest).drop needle.length
    else c :: replaceFirst needle replacement rest

/-- Replaces every occurrence of a character by a text. -/
def replaceChar (target : Char) (replacement : List Char) (cs : List Char) : List Char :=
  cs.flatMap fun c => if c = target then replacement else [c]

/-- The texts with a separator between them. -/
def joinWith (separator : List Char) : List (List Char) → List Char
  | [] => []
  | [cs] => cs
  | cs :: rest => cs ++ separator ++ joinWith separator rest

/-- Splits a text at each occurrence of a separator. -/
def splitAt (separator : Char) : List Char → List (List Char)
  | [] => [[]]
  | c :: rest =>
    if c = separator then [] :: splitAt separator rest
    else match splitAt separator rest with
      | [] => [[c]]
      | part :: parts => (c :: part) :: parts

end DartRecords.Text
