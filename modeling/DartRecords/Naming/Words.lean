import DartRecords.Text.Blank
import DartRecords.Text.Case

/-!
# Words of a name

A name consists of words, whatever its case style: a word ends at an underscore, a hyphen or a
blank, and where a lowercase ASCII letter or digit is followed by an uppercase ASCII letter.
-/

namespace DartRecords.Naming

/-- Whether the character is a lowercase ASCII letter or an ASCII digit. -/
def isLowerOrDigit (c : Char) : Bool := c.isLower || c.isDigit

/-- Puts an underscore where a lowercase letter or digit is followed by an uppercase letter. -/
def markHumps : List Char → List Char
  | [] => []
  | [c] => [c]
  | c :: d :: rest =>
    if isLowerOrDigit c && d.isUpper then c :: '_' :: markHumps (d :: rest)
    else c :: markHumps (d :: rest)

/-- Whether the character stands between two words. -/
def isSeparator (c : Char) : Bool := c = '_' || c = '-' || Text.isBlank c

/-- The parts of a text between separators, possibly empty. -/
def parts : List Char → List (List Char)
  | [] => [[]]
  | c :: rest =>
    if isSeparator c then [] :: parts rest
    else match parts rest with
      | [] => [[c]]
      | part :: more => (c :: part) :: more

/-- The words of a name, in lowercase. -/
def splitWords (name : List Char) : List (List Char) :=
  ((parts (markHumps name)).filter (!·.isEmpty)).map Text.lower

end DartRecords.Naming
