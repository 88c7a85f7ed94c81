import DartRecords.Json.Basic
import DartRecords.Limits
import DartRecords.Text.Hex

/-!
# Reading JSON text

A reader for JSON with three additions: the names `NaN`, `Infinity` and `-Infinity` are numbers,
a repeated member keeps its first place and takes the last value, and whole numbers have any size
up to a limit on their digits.  Lists and objects may be nested up to a limit as well.  A text that
is no JSON is refused with the position, counted in characters, at which reading stopped.

An escape may name a half of a surrogate pair that is not part of a pair.  Such a half is no
character, and no value has one: what stands for it is a parameter, so that a text has such a half
in its strings exactly if the value that is read from it depends on that parameter.
-/

namespace DartRecords.Json

/-- Why a text is no JSON, with the position of the fault. -/
inductive ParseError where
  | byteOrderMark
  | expectingValue (pos : Nat)
  | expectingName (pos : Nat)
  | expectingColon (pos : Nat)
  | expectingComma (pos : Nat)
  | unterminatedString (start : Nat)
  | controlCharacter (pos : Nat)
  | badEscape (pos : Nat)
  | badUnicodeEscape (pos : Nat)
  | extraData (pos : Nat)
  /-- A whole number has more digits than the reader converts. -/
  | tooManyDigits (count : Nat)
  /-- A list starts inside more lists and objects than the reader follows. -/
  | listTooDeep
  /-- An object starts inside more lists and objects than the reader follows. -/
  | objectTooDeep
  deriving DecidableEq, Repr

/-- The most digits of a whole number that the reader converts. -/
def maxDigits : Nat := 4300

/-- The characters that stand for halves of surrogate pairs that are not part of a pair. -/
class LoneHalves where
  char : Nat → Char

/-- All halves that stand alone are shown as the replacement character. -/
abbrev LoneHalves.replaced : LoneHalves := ⟨fun _ => '\uFFFD'⟩

namespace Parser

/-- What is left to read, and where it starts. -/
structure Cursor where
  pos : Nat
  rest : List Char

/-- A result together with what is left to read. -/
abbrev Step (α : Type) := Except ParseError (α × Cursor)

/-- Whether the character may stand between two tokens. -/
def isSpace (c : Char) : Bool := c = ' ' || c = '\t' || c = '\n' || c = '\r'

/-- Skips the blanks between two tokens. -/
def skipSpace (pos : Nat) : List Char → Cursor
  | [] => ⟨pos, []⟩
  | c :: rest => if isSpace c then skipSpace (pos + 1) rest else ⟨pos, c :: rest⟩

/-- The character of an escape of one letter. -/
def simpleEscape? (c : Char) : Option Char :=
  if c = '"' || c = '\\' || c = '/' then some c
  else if c = 'b' then some '\x08'
  else if c = 'f' then some '\x0c'
  else if c = 'n' then some '\n'
  else if c = 'r' then some '\r'
  else if c = 't' then some '\t'
  else none

/-- Whether the code is the first half of a surrogate pair. -/
def isHighSurrogate (n : Nat) : Bool := 0xD800 ≤ n && n ≤ 0xDBFF

/-- Whether the code is the second half of a surrogate pair. -/
def isLowSurrogate (n : Nat) : Bool := 0xDC00 ≤ n && n ≤ 0xDFFF

variable [LoneHalves]

/-- The character of a code unit, or what stands for a half of a pair. -/
def unitChar (n : Nat) : Char :=
  if isHighSurrogate n || isLowSurrogate n then LoneHalves.char n else Char.ofNat n

/-- Reads the four digits of an escape whose letter `u` stands at `pos - 1`.  At least one
character has to follow them. -/
def unicodeUnit (pos : Nat) (cs : List Char) : Step Nat :=
  if (cs.drop 4).isEmpty then .error (.badUnicodeEscape (pos - 1))
  else match Text.hexNumber? (cs.take 4) with
    | some n => .ok (n, ⟨pos + 4, cs.drop 4⟩)
    | none => .error (.badUnicodeEscape (pos - 1))

/-- Reads the rest of an escape whose letter `u` stands at `pos - 1`, both halves of a pair
giving one character. -/
def unicodeEscape (pos : Nat) (cs : List Char) : Step Char :=
  match unicodeUnit pos cs with
  | .error e => .error e
  | .ok (high, next) =>
    if isHighSurrogate high && !(next.rest.drop 6).isEmpty then
      match next.rest with
      | '\\' :: 'u' :: rest =>
        match Text.hexNumber? (rest.take 4) with
        | none => .error (.badUnicodeEscape (next.pos + 1))
        | some low =>
          if isLowSurrogate low then
            .ok (Char.ofNat (0x10000 + (high - 0xD800) * 0x400 + (low - 0xDC00)),
              ⟨next.pos + 6, rest.drop 4⟩)
          else .ok (unitChar high, next)
      | _ => .ok (unitChar high, next)
    else .ok (unitChar high, next)

/-- Reads a string up to its closing quote.  `start` is the position of its opening quote, and
`seen` holds the characters read so far, the last one first. -/
def string (start : Nat) : Nat → List Char → Cursor → Step String
  | 0, _, _ => .error (.unterminatedString start)
  | fuel + 1, seen, ⟨pos, cs⟩ =>
    match cs with
    | [] => .error (.unterminatedString start)
    | '"' :: rest => .ok (String.ofList seen.reverse, ⟨pos + 1, rest⟩)
    | ['\\'] => .error (.unterminatedString start)
    | '\\' :: 'u' :: rest =>
      match unicodeEscape (pos + 2) rest with
      | .error e => .error e
      | .ok (c, next) => string start fuel (c :: seen) next
    | '\\' :: c :: rest =>
      match simpleEscape? c with
      | some d => string start fuel (d :: seen) ⟨pos + 2, rest⟩
      | none => .error (.badEscape pos)
    | c :: rest =>
      if c.toNat < 0x20 then .error (.controlCharacter pos)
      else string start fuel (c :: seen) ⟨pos + 1, rest⟩

/-- Whether the character is an ASCII digit. -/
def isDigit (c : Char) : Bool := '0' ≤ c && c ≤ '9'

/-- The value of a run of ASCII digits. -/
def digitsValue (cs : List Char) : Nat :=
  cs.foldl (fun n c => 10 * n + (c.toNat - '0'.toNat)) 0

/-- The digits before the point of a number: a zero alone, or a run that starts otherwise. -/
def wholeDigits : List Char → List Char
  | [] => []
  | c :: rest => if c = '0' then ['0'] else (c :: rest).takeWhile isDigit

/-- The digits after a point that is followed by a digit. -/
def fractionDigits : List Char → List Char
  | '.' :: rest => rest.takeWhile isDigit
  | _ => []

/-- The exponent of a number, with the characters it takes, if there is one. -/
def exponentPart : List Char → Option (Int × Nat)
  | e :: rest =>
    if e = 'e' || e = 'E' then
      let (negative, signs, digits) := match rest with
        | '-' :: more => (true, 1, more.takeWhile isDigit)
        | '+' :: more => (false, 1, more.takeWhile isDigit)
        | _ => (false, 0, rest.takeWhile isDigit)
      if digits.isEmpty then none
      else
        let value : Int := digitsValue digits
        some (if negative then -value else value, 1 + signs + digits.length)
    else none
  | [] => none

/-- Reads a number that starts at `start`, a sign having been read already. -/
def number (start : Nat) (negative : Bool) (cursor : Cursor) : Step Json :=
  let whole := wholeDigits cursor.rest
  if whole.isEmpty then .error (.expectingValue start)
  else
    let afterWhole := cursor.rest.drop whole.length
    let fraction := fractionDigits afterWhole
    let pointed := if fraction.isEmpty then 0 else fraction.length + 1
    let afterFraction := afterWhole.drop pointed
    let power := exponentPart afterFraction
    let powered := (power.map (·.2)).getD 0
    let next : Cursor :=
      ⟨cursor.pos + whole.length + pointed + powered, afterFraction.drop powered⟩
    if fraction.isEmpty && power.isNone then
      if maxDigits < whole.length then .error (.tooManyDigits whole.length)
      else
        let value : Int := digitsValue whole
        .ok (.int (if negative then -value else value), next)
    else
      let exponent : Int := (power.map (·.1)).getD 0 - fraction.length
      .ok (.real (Binary64.ofDecimal negative (digitsValue (whole ++ fraction)) exponent), next)

/-- Reads a fixed name. -/
def keyword (name : String) (value : Json) (cursor : Cursor) : Option (Json × Cursor) :=
  if name.toList.isPrefixOf cursor.rest then
    some (value, ⟨cursor.pos + name.length, cursor.rest.drop name.length⟩)
  else none

/-- Reads a value that is neither a string, a list nor an object. -/
def scalar (cursor : Cursor) : Step Json :=
  let names : List (String × Json) :=
    [("null", .null), ("true", .bool true), ("false", .bool false), ("NaN", .real .nan),
     ("Infinity", .real (.infinite false)), ("-Infinity", .real (.infinite true))]
  match names.findSome? fun (name, value) => keyword name value cursor with
  | some result => .ok result
  | none =>
    match cursor.rest with
    | '-' :: rest => number cursor.pos true ⟨cursor.pos + 1, rest⟩
    | _ => number cursor.pos false cursor

mutual

/-- Reads a value, in which lists and objects may be nested up to a depth. -/
def value : Nat → Nat → Cursor → Step Json
  | 0, _, cursor => .error (.expectingValue cursor.pos)
  | fuel + 1, nesting, cursor =>
    match cursor.rest with
    | [] => .error (.expectingValue cursor.pos)
    | '"' :: rest =>
      match string cursor.pos fuel [] ⟨cursor.pos + 1, rest⟩ with
      | .error e => .error e
      | .ok (s, next) => .ok (.str s, next)
    | '[' :: rest =>
      match nesting with
      | 0 => .error .listTooDeep
      | nesting + 1 =>
        let next := skipSpace (cursor.pos + 1) rest
        match next.rest with
        | ']' :: rest => .ok (.arr [], ⟨next.pos + 1, rest⟩)
        | _ => elements fuel nesting [] next
    | '\x7b' :: rest =>
      match nesting with
      | 0 => .error .objectTooDeep
      | nesting + 1 =>
        let next := skipSpace (cursor.pos + 1) rest
        match next.rest with
        | '\x7d' :: rest => .ok (.obj [], ⟨next.pos + 1, rest⟩)
        | _ => members fuel nesting [] next
    | _ => scalar cursor

/-- Reads the elements of a list up to its closing bracket; `seen` holds those read so far, the
last one first. -/
def elements : Nat → Nat → List Json → Cursor → Step Json
  | 0, _, _, cursor => .error (.expectingValue cursor.pos)
  | fuel + 1, nesting, seen, cursor =>
    match value fuel nesting cursor with
    | .error e => .error e
    | .ok (v, next) =>
      let next := skipSpace next.pos next.rest
      match next.rest with
      | ']' :: rest => .ok (.arr (v :: seen).reverse, ⟨next.pos + 1, rest⟩)
      | ',' :: rest => elements fuel nesting (v :: seen) (skipSpace (next.pos + 1) rest)
      | _ => .error (.expectingComma next.pos)

/-- Reads the members of an object up to its closing brace, after those in `seen`. -/
def members : Nat → Nat → Members → Cursor → Step Json
  | 0, _, _, cursor => .error (.expectingName cursor.pos)
  | fuel + 1, nesting, seen, cursor =>
    match cursor.rest with
    | '"' :: rest =>
      match string cursor.pos fuel [] ⟨cursor.pos + 1, rest⟩ with
      | .error e => .error e
      | .ok (name, next) =>
        let next := skipSpace next.pos next.rest
        match next.rest with
        | ':' :: rest =>
          match value fuel nesting (skipSpace (next.pos + 1) rest) with
          | .error e => .error e
          | .ok (v, next) =>
            let seen := Json.insert name v seen
            let next := skipSpace next.pos next.rest
            match next.rest with
            | '\x7d' :: rest => .ok (.obj seen, ⟨next.pos + 1, rest⟩)
            | ',' :: rest => members fuel nesting seen (skipSpace (next.pos + 1) rest)
            | _ => .error (.expectingComma next.pos)
        | _ => .error (.expectingColon next.pos)
    | _ => .error (.expectingName cursor.pos)

end

end Parser

/-- Reads a whole text as one value, with blanks around it.  No character costs more than two units
of fuel, so twice the length of the text is enough. -/
def parseChars [Limits] [LoneHalves] (cs : List Char) : Except ParseError Json :=
  match cs with
  | '\uFEFF' :: _ => .error .byteOrderMark
  | _ =>
    match Parser.value (2 * cs.length + 2) Limits.nesting (Parser.skipSpace 0 cs) with
    | .error e => .error e
    | .ok (v, next) =>
      let next := Parser.skipSpace next.pos next.rest
      if next.rest.isEmpty then .ok v else .error (.extraData next.pos)

/-- Reads a whole text as one value. -/
def parse [Limits] [LoneHalves] (text : String) : Except ParseError Json :=
  parseChars text.toList

/-- What went wrong and at which position, or none for a fault that is no matter of syntax. -/
def ParseError.describe : ParseError → Option (String × Nat)
  | .byteOrderMark => some ("Unexpected UTF-8 BOM (decode using utf-8-sig)", 0)
  | .expectingValue pos => some ("Expecting value", pos)
  | .expectingName pos => some ("Expecting property name enclosed in double quotes", pos)
  | .expectingColon pos => some ("Expecting ':' delimiter", pos)
  | .expectingComma pos => some ("Expecting ',' delimiter", pos)
  | .unterminatedString pos => some ("Unterminated string starting at", pos)
  | .controlCharacter pos => some ("Invalid control character at", pos)
  | .badEscape pos => some ("Invalid \\escape", pos)
  | .badUnicodeEscape pos => some ("Invalid \\uXXXX escape", pos)
  | .extraData pos => some ("Extra data", pos)
  | .tooManyDigits _ => none
  | .listTooDeep => none
  | .objectTooDeep => none

/-- The text of a refusal to convert a whole number of so many digits. -/
def tooManyDigitsText (count : Nat) : String :=
  "Exceeds the limit (" ++ toString maxDigits ++
    " digits) for integer string conversion: value has "
    ++ toString count ++ " digits; use sys.set_int_max_str_digits() to increase the limit"

/-- The text of a refusal to follow lists or objects any deeper. -/
def tooDeepText (what : String) : String :=
  "maximum recursion depth exceeded while decoding a JSON " ++ what ++ " from a unicode string"

/-- The refusal of a text that goes beyond a limit of the reader. -/
def ParseError.refusal? : ParseError → Option Mismatch
  | .tooManyDigits count => some (.badValue (tooManyDigitsText count))
  | .listTooDeep => some (.tooDeep (tooDeepText "array"))
  | .objectTooDeep => some (.tooDeep (tooDeepText "object"))
  | _ => none

/-- The message of an error in a text: what went wrong, then line, column and position. -/
def ParseError.message (error : ParseError) (cs : List Char) : String :=
  match error.describe with
  | some (what, pos) =>
    let before := cs.take pos
    let line := before.count '\n' + 1
    let column := (before.reverse.takeWhile (· ≠ '\n')).length + 1
    what ++ ": line " ++ toString line ++ " column " ++ toString column
      ++ " (char " ++ toString pos ++ ")"
  | none => (error.refusal?.map Mismatch.detail).getD ""

end DartRecords.Json
