import DartRecords.Json.Printer
import DartRecords.Text.Search

/-!
# Dart string literals

A text in double quotes.  The escapes of JSON strings have the same meaning in Dart; in addition
a dollar sign, which would start an interpolation, is escaped.
-/

namespace DartRecords.Dart

/-- The Dart literal of a text. -/
def stringLiteral (cs : List Char) : List Char :=
  Text.replaceChar '$' ['\\', '$'] (Json.stringText cs)

/-- The Dart literal of the display text of a value. -/
def literal (v : Json) : String := String.ofList (stringLiteral v.display.toList)

end DartRecords.Dart
