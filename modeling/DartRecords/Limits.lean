import DartRecords.Json.Depth

/-!
# Limits

How deeply values may be nested and how long a text may get depends on the machine, and on the
stack that is left where a function is called.  The functions that run into such a limit take it
as a parameter, and nothing is assumed about it.
-/

namespace DartRecords

/-- What the machine takes on. -/
class Limits where
  /-- The most lists and objects that may be nested in a JSON text that is read. -/
  nesting : Nat
  /-- Whether the stack is large enough to copy a value and to write the copy. -/
  copies : Json → Bool
  /-- Texts have fewer characters than this. -/
  length : Int

/-- The limits that the command runs with. -/
abbrev Limits.usual : Limits where
  nesting := 990
  copies := fun v => v.depth ≤ 491
  length := 68719476736

end DartRecords
