import DartRecords.Layout.Marker
import DartRecords.Text.Blank

/-!
# Indentation

Raw code is split into lines and every line is trimmed.  Only the first and the last character
of a trimmed line matter.  A closing bracket at the start pops the stack down to its opener; a
point at the start opens a chain.  The line is then written at the depth of the stack.  Its last
character opens a bracket, opens a continuation, or ends a chain or continuation.  A comment
line is written like any other and opens and ends nothing.
-/

namespace DartRecords.Layout

/-- A closing bracket without an opener, with its line's number and trimmed text. -/
structure Unbalanced where
  lineNumber : Nat
  line : List Char
  deriving DecidableEq, Repr

/-- Splits a text at its newlines. -/
def splitLines : List Char → List (List Char)
  | [] => [[]]
  | c :: rest =>
    if c = '\n' then [] :: splitLines rest
    else match splitLines rest with
      | [] => [[c]]
      | line :: lines => (c :: line) :: lines

/-- The stack after the first character of a line, at whose depth the line is written. -/
def enter (stack : Stack) (first : Char) : Option Stack :=
  match closer? first with
  | some m => close? m stack
  | none =>
    if first = '.' && stack.head? ≠ some .chain then some (.chain :: stack) else some stack

/-- Whether a trimmed line is a comment. -/
def isComment : List Char → Bool
  | '/' :: '/' :: _ => true
  | _ => false

/-- The stack after the last character of a line that is no comment. -/
def leave (stack : Stack) (last : Char) : Stack :=
  match opener? last with
  | some m => m :: stack
  | none =>
    if last = ':' || last = '=' then
      if stack.head? = some .continuation then stack else .continuation :: stack
    else if last = ';' || last = ',' then
      match stack with
      | .chain :: rest => rest
      | .continuation :: rest => rest
      | _ => stack
    else stack

/-- A line that has been placed: blank, or a trimmed text at a depth. -/
inductive Placed where
  | blank
  | line (depth : Nat) (text : List Char)
  deriving DecidableEq, Repr

/-- Places one trimmed line; none if it closes a bracket that is not open. -/
def place (stack : Stack) (line : List Char) : Option (Placed × Stack) :=
  match line with
  | [] => some (.blank, stack)
  | first :: rest =>
    match enter stack first with
    | none => none
    | some inner =>
      let after :=
        if isComment line then inner else leave inner (rest.getLast?.getD first)
      some (.line inner.length line, after)

/-- Places the lines of a text from line number `n` on, and gives the stack that remains. -/
def placeLines (n : Nat) (stack : Stack) :
    List (List Char) → Except Unbalanced (List Placed × Stack)
  | [] => .ok ([], stack)
  | raw :: rest =>
    let line := Text.trim raw
    match place stack line with
    | none => .error ⟨n, line⟩
    | some (placed, after) =>
      match placeLines (n + 1) after rest with
      | .error e => .error e
      | .ok (lines, final) => .ok (placed :: lines, final)

/-- A text repeated. -/
def repeated (indentUnit : List Char) : Nat → List Char
  | 0 => []
  | n + 1 => indentUnit ++ repeated indentUnit n

/-- The text of a placed line, with its newline. -/
def Placed.render (indentUnit : List Char) : Placed → List Char
  | .blank => ['\n']
  | .line depth text => repeated indentUnit depth ++ text ++ ['\n']

end DartRecords.Layout
