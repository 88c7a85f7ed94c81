import DartRecords.CommandLine.Arguments
import DartRecords.CommandLine.Command

/-!
# Plain rendering

What the command prints, as plain text: style tags are dropped, and tables and panels become lines.
-/

namespace DartRecords.CommandLine

/-- The styles that texts are tagged with. -/
def styles : List String := ["red", "green", "yellow", "cyan", "blue", "dim", "bold"]

/-- The tags that start and end styles. -/
def styleTags : List (List Char) :=
  styles.flatMap fun style => [("[" ++ style ++ "]").toList, ("[/" ++ style ++ "]").toList]

/-- Drops style tags; `skip` counts the characters of a tag that are still to pass. -/
def dropTags (skip : Nat) : List Char → List Char
  | [] => []
  | c :: rest =>
    match skip with
    | n + 1 => dropTags n rest
    | 0 =>
      match styleTags.find? (·.isPrefixOf (c :: rest)) with
      | some tag => dropTags (tag.length - 1) rest
      | none => c :: dropTags 0 rest

/-- A text without style tags. -/
def plainText (s : String) : String := String.ofList (dropTags 0 s.toList)

/-- What is printed, as plain text. -/
def Printed.render : Printed → String
  | .text content => plainText content
  | .table title columns rows =>
    "\n".intercalate (title :: (columns :: rows).map fun row => plainText ("  ".intercalate row))
  | .panel title content => title ++ "\n" ++ plainText content
  | .listing code _ => code

/-- The words that show how the command is used. -/
def usageLine : String := "usage: " ++ programName ++ " [options] [source]"

/-- The names of all options, one option a line. -/
def helpText : String :=
  "\n".intercalate (usageLine :: "" :: options.map fun (_, names) => "  " ++ ", ".intercalate names)

end DartRecords.CommandLine
