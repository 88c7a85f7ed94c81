import DartRecords.Text.Hex
import DartRecords.Text.Printable

/-!
# Quoted text

The form in which messages show a text.  It stands between single quotes, or between double
quotes when it holds a single quote and no double quote.  A backslash and the enclosing quote are
escaped, and characters that are not printable are shown by an escape or by their code point.
-/

namespace DartRecords.Text

/-- The single quote. -/
def singleQuote : Char := '\x27'

/-- One character of a text that stands between the given quotes. -/
def quoteChar (quote c : Char) : List Char :=
  if c = quote || c = '\\' then ['\\', c]
  else if c = '\t' then ['\\', 't']
  else if c = '\n' then ['\\', 'n']
  else if c = '\r' then ['\\', 'r']
  else if isPrintable c then [c]
  else if c.toNat ≤ 0xFF then '\\' :: 'x' :: hexPadded 2 c.toNat
  else if c.toNat ≤ 0xFFFF then '\\' :: 'u' :: hexPadded 4 c.toNat
  else '\\' :: 'U' :: hexPadded 8 c.toNat

/-- The text in quotes. -/
def quoted (cs : List Char) : List Char :=
  let quote := if cs.contains singleQuote && !cs.contains '"' then '"' else singleQuote
  quote :: cs.flatMap (quoteChar quote) ++ [quote]

/-- A string in quotes. -/
def quote (s : String) : String := String.ofList (quoted s.toList)

end DartRecords.Text
