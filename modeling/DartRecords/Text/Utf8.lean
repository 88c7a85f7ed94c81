import DartRecords.Text.Hex

/-!
# UTF-8

Decoding bytes into characters.  A sequence that is no UTF-8 is refused with the bytes that rule it
out and the reason.
-/

namespace DartRecords.Text.Utf8

/-- Why bytes are no UTF-8. -/
inductive Reason where
  | invalidStart
  | invalidContinuation
  | unexpectedEnd
  deriving DecidableEq, Repr

/-- The words for a reason. -/
def Reason.words : Reason → String
  | .invalidStart => "invalid start byte"
  | .invalidContinuation => "invalid continuation byte"
  | .unexpectedEnd => "unexpected end of data"

/-- A sequence of bytes that is no UTF-8: its position, its bytes, and the reason. -/
structure Error where
  start : Nat
  bytes : List UInt8
  reason : Reason
  deriving DecidableEq, Repr

/-- The message about bytes that are no UTF-8. -/
def Error.message (e : Error) : String :=
  let place := match e.bytes with
    | [b] => "byte 0x" ++ String.ofList (hexPadded 2 b.toNat) ++ " in position " ++ toString e.start
    | bytes => "bytes in position " ++ toString e.start ++ "-"
        ++ toString (e.start + bytes.length - 1)
  "'utf-8' codec can't decode " ++ place ++ ": " ++ e.reason.words

/-- Whether a byte may follow the first byte of a character. -/
def isContinuation (b : UInt8) : Bool := 0x80 ≤ b && b ≤ 0xBF

/-- Whether a byte may follow a given first byte: some first bytes allow only a part of the
continuation bytes, so that every character has one form and no surrogate has any. -/
def mayFollow (first second : UInt8) : Bool :=
  isContinuation second
    && !(first == 0xE0 && second < 0xA0) && !(first == 0xED && 0xA0 ≤ second)
    && !(first == 0xF0 && second < 0x90) && !(first == 0xF4 && 0x90 ≤ second)

/-- The number of bytes of a character that starts with a byte. -/
def sequenceLength? (first : UInt8) : Option Nat :=
  if first < 0x80 then some 1
  else if 0xC2 ≤ first && first ≤ 0xDF then some 2
  else if 0xE0 ≤ first && first ≤ 0xEF then some 3
  else if 0xF0 ≤ first && first ≤ 0xF4 then some 4
  else none

/-- The code point of a whole sequence. -/
def codePoint (first : UInt8) (rest : List UInt8) : Nat :=
  let lead := match rest.length with
    | 0 => first.toNat
    | 1 => first.toNat % 0x20
    | 2 => first.toNat % 0x10
    | _ => first.toNat % 0x08
  rest.foldl (fun n b => n * 0x40 + b.toNat % 0x40) lead

/-- The bytes after a first byte that may belong to its character, at most `n` of them. -/
def continuations (first : UInt8) : Nat → List UInt8 → List UInt8
  | 0, _ => []
  | _, [] => []
  | n + 1, b :: rest =>
    if mayFollow first b then b :: (rest.take n).takeWhile isContinuation else []

/-- Decodes bytes from a position on.  `skip` counts the bytes of the last character that are
still to pass. -/
def decodeFrom (pos skip : Nat) : List UInt8 → Except Error (List Char)
  | [] => .ok []
  | b :: rest =>
    match skip with
    | n + 1 => decodeFrom (pos + 1) n rest
    | 0 =>
      match sequenceLength? b with
      | none => .error ⟨pos, [b], .invalidStart⟩
      | some len =>
        let tail := continuations b (len - 1) rest
        if tail.length = len - 1 then
          match decodeFrom (pos + 1) (len - 1) rest with
          | .error e => .error e
          | .ok cs => .ok (Char.ofNat (codePoint b tail) :: cs)
        else if tail.length = rest.length then .error ⟨pos, b :: tail, .unexpectedEnd⟩
        else .error ⟨pos, b :: tail, .invalidContinuation⟩

/-- Decodes bytes. -/
def decode (bytes : List UInt8) : Except Error (List Char) := decodeFrom 0 0 bytes

/-- Encodes a text. -/
def encode (s : String) : List UInt8 := s.toUTF8.toList

/-- Turns every line ending into a newline. -/
def unifyNewlines : List Char → List Char
  | [] => []
  | '\r' :: '\n' :: rest => '\n' :: unifyNewlines rest
  | c :: rest => (if c = '\r' then '\n' else c) :: unifyNewlines rest

end DartRecords.Text.Utf8
