import DartRecords.Text.Blank

/-!
# Clean-ups of indented code

Once all lines are indented, blanks between two brackets that enclose nothing are removed, as are
the empty line after an opening brace, the empty line before a closing brace, all but one of
several empty lines in a row, and an empty line at the end.  Each clean-up reads the text once
from left to right.
-/

namespace DartRecords.Layout

/-- Removes the blanks between an opening and a closing bracket that enclose blanks only.
`pending` holds an opening bracket and the blanks after it, the last one first, and is empty when
no bracket has just been opened. -/
def joinEmpty (opening closing : Char) (pending : List Char) : List Char → List Char
  | [] => pending.reverse
  | c :: rest =>
    match pending with
    | [] =>
      if c = opening then joinEmpty opening closing [c] rest
      else c :: joinEmpty opening closing [] rest
    | _ :: earlier =>
      if Text.isBlank c then joinEmpty opening closing (c :: pending) rest
      else if c = closing && !earlier.isEmpty then
        opening :: closing :: joinEmpty opening closing [] rest
      else if c = opening then
        pending.reverse ++ joinEmpty opening closing [c] rest
      else pending.reverse ++ c :: joinEmpty opening closing [] rest

/-- Where a scan for an empty line after an opening brace stands. -/
inductive BraceScan where
  | elsewhere
  | afterBrace
  /-- After an opening brace, its newline, and spaces or tabs. -/
  | afterBraceLine
  deriving DecidableEq, Repr

/-- Removes the newline of an empty line that directly follows an opening brace. -/
def dropAfterBrace (scan : BraceScan) : List Char → List Char
  | [] => []
  | c :: rest =>
    if c = '\x7b' then c :: dropAfterBrace .afterBrace rest
    else if c = '\n' then
      match scan with
      | .elsewhere => c :: dropAfterBrace .elsewhere rest
      | .afterBrace => c :: dropAfterBrace .afterBraceLine rest
      | .afterBraceLine => dropAfterBrace .elsewhere rest
    else if (c = ' ' || c = '\t') && scan = .afterBraceLine then
      c :: dropAfterBrace .afterBraceLine rest
    else c :: dropAfterBrace .elsewhere rest

/-- Whether a text starts with a newline, spaces or tabs, and a closing brace. -/
def opensWithClosedLine : List Char → Bool
  | '\n' :: rest => (rest.dropWhile fun c => c = ' ' || c = '\t').head? = some '\x7d'
  | _ => false

/-- Removes a newline that is directly followed by a line starting with a closing brace. -/
def dropBeforeBrace : List Char → List Char
  | [] => []
  | c :: rest =>
    if c = '\n' && opensWithClosedLine rest then dropBeforeBrace rest
    else c :: dropBeforeBrace rest

/-- Keeps at most two newlines in a row, of which `seen` have been read. -/
def squeezeNewlines (seen : Nat) : List Char → List Char
  | [] => []
  | c :: rest =>
    if c = '\n' then
      if 2 ≤ seen then squeezeNewlines seen rest else c :: squeezeNewlines (seen + 1) rest
    else c :: squeezeNewlines 0 rest

/-- Removes the last of two newlines at the end. -/
def dropTrailingBlank : List Char → List Char
  | [] => []
  | ['\n', '\n'] => ['\n']
  | c :: rest => c :: dropTrailingBlank rest

/-- All clean-ups, in order. -/
def cleanUp (text : List Char) : List Char :=
  let text := joinEmpty '\x7b' '\x7d' [] text
  let text := joinEmpty '(' ')' [] text
  let text := joinEmpty '[' ']' [] text
  let text := dropAfterBrace .elsewhere text
  let text := dropBeforeBrace text
  let text := squeezeNewlines 0 text
  dropTrailingBlank text

end DartRecords.Layout
