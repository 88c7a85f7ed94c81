import DartRecords.Layout.Cleanup
import DartRecords.Layout.Indent
import DartRecords.Text.Quoted

/-!
# Laying out code

Generated code is written without any indentation.  `layout` indents it by the nesting of its
brackets and cleans up empty lines and empty brackets.  It fails only on a line that closes a
bracket that no earlier line has opened.
-/

namespace DartRecords.Layout

/-- The indentation of one level unless another is asked for. -/
def defaultIndentUnit : String := "  "

/-- Code that has been laid out, with the number of contexts that were still open at its end. -/
structure Laid where
  text : List Char
  openContexts : Nat
  deriving DecidableEq, Repr

/-- The indented text, before the clean-ups. -/
def indent (indentUnit : List Char) (lines : List Placed) : List Char :=
  lines.flatMap (Placed.render indentUnit)

/-- Lays out raw code. -/
def layout (indentUnit raw : List Char) : Except Unbalanced Laid :=
  match placeLines 1 [] (splitLines raw) with
  | .error e => .error e
  | .ok (lines, final) => .ok ⟨cleanUp (indent indentUnit lines), final.length⟩

/-- The message of an unbalanced bracket. -/
def Unbalanced.message (e : Unbalanced) : String :=
  "Unbalanced closing bracket at line " ++ toString e.lineNumber ++ ": "
    ++ String.ofList (Text.quoted e.line)

/-- What is noted when contexts are open at the end of a text. -/
def Laid.note? (laid : Laid) : Option String :=
  if laid.openContexts = 0 then none
  else some ("Layout finished with " ++ toString laid.openContexts ++ " open context(s)")

/-! ## Collecting fragments -/

/-- The fragments of one file, in the order in which they were pushed. -/
structure Builder where
  indentUnit : String := defaultIndentUnit
  fragments : List String := []

namespace Builder

/-- Adds fragments at the end. -/
def push (b : Builder) (fragments : List String) : Builder :=
  { b with fragments := b.fragments ++ fragments }

/-- Ends the line. -/
def pushLine (b : Builder) : Builder := b.push ["\n"]

/-- The raw text so far. -/
def text (b : Builder) : String := String.join b.fragments

/-- Lays out the raw text so far. -/
def build (b : Builder) : Except Unbalanced Laid :=
  layout b.indentUnit.toList b.text.toList

end Builder

end DartRecords.Layout
