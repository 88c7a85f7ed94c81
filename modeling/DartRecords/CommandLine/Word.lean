import DartRecords.CommandLine.Option
import DartRecords.Text.Digit

/-!
# Words of a command line

Each word is an argument, an option, or the marker after which every word is an argument.  A long
option may be abbreviated as long as only one option has such a name, and may have its value after
an equals sign.  Short options may have their value, or further short options, directly after them.
-/

namespace DartRecords.CommandLine

/-- A word of the command line. -/
inductive Word where
  | argument (text : String)
  | marker
  /-- An option, the name it was found by, and the value that is part of the word. -/
  | option (action : Action) (name : String) (value : Option String)
  /-- A word that looks like an option but is none. -/
  | unknown (text : String)
  deriving DecidableEq, Repr

/-- An abbreviation that could stand for several options. -/
structure Ambiguity where
  word : String
  names : List String
  deriving DecidableEq, Repr

/-- The parts of a word before and after its first equals sign. -/
def splitEquals (word : String) : String × Option String :=
  let name := word.toList.takeWhile (· ≠ '=')
  match word.toList.dropWhile (· ≠ '=') with
  | [] => (word, none)
  | _ :: value => (String.ofList name, some (String.ofList value))

/-- Whether a word reads as a negative number; one newline may follow it. -/
def isNegativeNumber (word : String) : Bool :=
  let isDigit (c : Char) : Bool := (Text.digitValue? c).isSome
  match word.toList with
  | '-' :: rest =>
    let body := if rest.getLast? = some '\n' then rest.dropLast else rest
    let whole := body.takeWhile isDigit
    match body.dropWhile isDigit with
    | [] => !whole.isEmpty
    | '.' :: fraction => !fraction.isEmpty && fraction.all isDigit
    | _ => false
  | _ => false

/-- The options that a word starting with two dashes could stand for. -/
def longCandidates (word : String) : List Word :=
  let (name, value) := splitEquals word
  namedOptions.filterMap fun (full, action) =>
    if name.toList.isPrefixOf full.toList then some (.option action full value) else none

/-- The options that a word starting with one dash could stand for. -/
def shortCandidates (word : String) : List Word :=
  let short := String.ofList (word.toList.take 2)
  namedOptions.filterMap fun (full, action) =>
    if full = short then some (.option action full (some (String.ofList (word.toList.drop 2))))
    else if word.toList.isPrefixOf full.toList then some (.option action full none)
    else none

/-- The name by which an option was found. -/
def Word.name : Word → String
  | .option _ name _ => name
  | _ => ""

/-- Reads a word that starts with a dash and is no option's full name. -/
def readDashed (word : String) : Except Ambiguity Word :=
  let (name, value) := splitEquals word
  match value, action? name with
  | some value, some action => .ok (.option action name (some value))
  | _, _ =>
    let candidates :=
      if "--".toList.isPrefixOf word.toList then longCandidates word else shortCandidates word
    match candidates with
    | [only] => .ok only
    | [] =>
      if isNegativeNumber word || word.toList.contains ' ' then .ok (.argument word)
      else .ok (.unknown word)
    | _ => .error ⟨word, candidates.map Word.name⟩

/-- Reads a word that stands before any marker. -/
def readWord (word : String) : Except Ambiguity Word :=
  match word.toList with
  | '-' :: rest =>
    match action? word with
    | some action => .ok (.option action word none)
    | none => if rest.isEmpty then .ok (.argument word) else readDashed word
  | _ => .ok (.argument word)

/-- Reads the words of a command line. -/
def readWords : List String → Except Ambiguity (List Word)
  | [] => .ok []
  | word :: rest =>
    if word = "--" then .ok (.marker :: rest.map .argument)
    else do
      let first ← readWord word
      let others ← readWords rest
      .ok (first :: others)

end DartRecords.CommandLine
