/-!
# Blank characters

The characters that trimming removes and that may stand between two brackets with nothing inside:
the ASCII blanks, the four information separators, the next-line control, and the Unicode space,
line and paragraph separators.  A zero-width space and a byte order mark are not blank.
-/

namespace DartRecords.Text

/-- The code points of blank characters. -/
def blankCodes : List Nat :=
  [0x09, 0x0A, 0x0B, 0x0C, 0x0D, 0x1C, 0x1D, 0x1E, 0x1F, 0x20, 0x85, 0xA0, 0x1680,
   0x2000, 0x2001, 0x2002, 0x2003, 0x2004, 0x2005, 0x2006, 0x2007, 0x2008, 0x2009, 0x200A,
   0x2028, 0x2029, 0x202F, 0x205F, 0x3000]

/-- Whether the character is blank. -/
def isBlank (c : Char) : Bool := blankCodes.contains c.toNat

/-- Removes the blank characters at both ends. -/
def trim (cs : List Char) : List Char :=
  ((cs.dropWhile isBlank).reverse.dropWhile isBlank).reverse

end DartRecords.Text
