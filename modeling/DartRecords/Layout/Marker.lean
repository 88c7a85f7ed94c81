/-!
# Layout contexts

While code is laid out, a stack of markers records what is open at the current line: the brackets
that earlier lines have opened, and the continuation of an assignment or of a chain of member
accesses.  The depth of the stack is the level of indentation.
-/

namespace DartRecords.Layout

/-- What is open at a line. -/
inductive Marker where
  | brace
  | paren
  | bracket
  | angle
  /-- A line ended with `:` or `=`. -/
  | continuation
  /-- A line started with a member access. -/
  | chain
  deriving DecidableEq, Repr

/-- The marker that an opening bracket at the end of a line pushes. -/
def opener? (c : Char) : Option Marker :=
  if c = '\x7b' then some .brace
  else if c = '(' then some .paren
  else if c = '[' then some .bracket
  else if c = '<' then some .angle
  else none

/-- The marker that a closing bracket at the start of a line closes. -/
def closer? (c : Char) : Option Marker :=
  if c = '\x7d' then some .brace
  else if c = ')' then some .paren
  else if c = ']' then some .bracket
  else if c = '>' then some .angle
  else none

/-- A stack of markers, the innermost one first. -/
abbrev Stack := List Marker

/-- Pops markers up to and including the first one equal to `m`; none if there is no such. -/
def close? (m : Marker) : Stack → Option Stack
  | [] => none
  | top :: rest => if top = m then some rest else close? m rest

end DartRecords.Layout
