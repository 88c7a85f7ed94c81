import DartRecords.Config.Basic
import DartRecords.Text.Alphanumeric

/-!
# Warnings about configurations
-/

namespace DartRecords.Config

/-- Whether an indent size is a positive whole number; a boolean counts as one or zero. -/
def validIndentSize : Json → Bool
  | .int n => 1 ≤ n
  | .bool b => b
  | _ => false

/-- Whether a line ending is one of the two usual ones.  A list or an object cannot be looked up
among them. -/
def validLineEnding (v : Json) : Except Mismatch Bool :=
  if v.hashable then .ok (v = .str "\n" || v = .str "\r\n") else .error v.unhashable

/-- Whether a package name is not empty and consists of letters, numbers and underscores. -/
def validPackage (v : Json) : Except Mismatch Bool :=
  if !v.truthy then .ok false
  else match v with
    | .str s => .ok (s.toList.all fun c => c = '_' || Text.isAlphanumeric c)
    | v => .error (v.lacking "replace")

/-- The warnings about a configuration. -/
def validate (config : Config) : Except Mismatch (List String) := do
  let indentWarnings :=
    if validIndentSize config.indentSize then []
    else ["Invalid indent_size: " ++ config.indentSize.display]
  let validEnding ← validLineEnding config.lineEnding
  let endingWarnings :=
    if validEnding then [] else ["Invalid line_ending: " ++ config.lineEnding.quote]
  let validName ← validPackage config.clientPackage
  let packageWarnings :=
    if validName then [] else ["Invalid Dart package name: " ++ config.clientPackage.display]
  .ok (indentWarnings ++ endingWarnings ++ packageWarnings)

end DartRecords.Config
