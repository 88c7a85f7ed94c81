import DartRecords.Proofs.FileText
import DartRecords.Proofs.StringTexts
import DartRecords.Proofs.Templates

/-!
# Reading string literals back

A literal is written in two steps: the text is escaped as in JSON, and in the result every dollar
sign is escaped once more.  The second step does not know of the escapes of the first one.

`literalChar_cases` is the inversion of both steps together, one character at a time.  `readParts`
reads the text between the quotes by the escapes of Dart, and keeps apart what stands for itself and
what is escaped.  Reading what is written for one character gives this character, whatever follows
(`readParts_literalChar`), and so by induction every text is read back (`literal_reads_back`).
-/

namespace DartRecords.Dart

open Json
  (letterEscapes escapeChar escapeChar_cases hexPair hexNumber?_hexPair space_le_of_mem_hexPair)
open Text (hexNumber? replaceChar)

/-! ## Reading -/

/-- A part of the text between the quotes of a literal. -/
inductive LiteralPart where
  /-- A character that stands for itself. -/
  | plain (c : Char)
  /-- The character that an escape stands for. -/
  | escaped (c : Char)
  deriving DecidableEq

/-- The character that a part stands for. -/
def LiteralPart.value : LiteralPart → Char
  | .plain c => c
  | .escaped c => c

/-- The character that a letter after a backslash stands for. -/
def letterEscape? (letter : Char) : Option Char := (('$', '$') :: letterEscapes).lookup letter

/-- The character of a code point, none for a half of a surrogate pair. -/
def codePoint? (n : Nat) : Option Char := if n.isValidChar then some (Char.ofNat n) else none

/-- Reads the text between the quotes of a literal: a backslash with a letter, or with the letter
`u` and four hexadecimal digits, is an escape, and any other character stands for itself.  A
backslash that starts no escape is refused. -/
def readParts : List Char → Option (List LiteralPart)
  | [] => some []
  | '\\' :: 'u' :: a :: b :: c :: d :: rest => do
    let escaped ← (hexNumber? [a, b, c, d]).bind codePoint?
    let parts ← readParts rest
    some (.escaped escaped :: parts)
  | '\\' :: letter :: rest => do
    let escaped ← letterEscape? letter
    let parts ← readParts rest
    some (.escaped escaped :: parts)
  | c :: rest =>
    if c = '\\' then none
    else do
      let parts ← readParts rest
      some (.plain c :: parts)

/-! ## What is written for one character -/

/-- What is written for a character of a text. -/
def literalChar (c : Char) : List Char := replaceChar '$' ['\\', '$'] (escapeChar c)

theorem literalBody_eq_flatMap (cs : List Char) : literalBody cs = cs.flatMap literalChar := by
  rw [literalBody, replaceChar, List.flatMap_assoc]
  rfl

theorem dollar_not_mem_hexPair : ∀ n < 0x20, '$' ∉ hexPair n := by decide

/-- A character is written as an escape of one letter, as an escape of four digits, or as it is. -/
theorem literalChar_cases (c : Char) :
    (∃ letter, letterEscape? letter = some c ∧ letter ≠ 'u' ∧ 0x20 ≤ letter.toNat ∧
      literalChar c = ['\\', letter]) ∨
    (c.toNat < 0x20 ∧ literalChar c = '\\' :: 'u' :: '0' :: '0' :: hexPair c.toNat) ∨
    (0x20 ≤ c.toNat ∧ c ≠ '"' ∧ c ≠ '\\' ∧ c ≠ '$' ∧ literalChar c = [c]) := by
  obtain ⟨letter, hletter, hwritten⟩ | ⟨hcontrol, hwritten⟩ |
    ⟨hspace, hquote, hbackslash, hwritten⟩ :=
    escapeChar_cases c
  · -- No letter of an escape is a dollar sign, so the second step leaves the escape alone.
    have hletters : ∀ p ∈ letterEscapes, letterEscape? p.1 = some p.2 ∧ p.1 ≠ 'u' ∧
        0x20 ≤ p.1.toNat ∧
        '$' ∉ ['\\', p.1] := by decide
    obtain ⟨hvalue, hnotUnicode, hvisible, hdollar⟩ := hletters _ hletter
    refine .inl ⟨letter, hvalue, hnotUnicode, hvisible, ?_⟩
    rw [literalChar, hwritten, replaceChar_of_not_mem hdollar]
  · refine .inr (.inl ⟨hcontrol, ?_⟩)
    rw [literalChar, hwritten, replaceChar_of_not_mem]
    simp [dollar_not_mem_hexPair _ hcontrol]
  · by_cases hdollar : c = '$'
    · subst hdollar
      exact .inl ⟨'$', by decide⟩
    · refine .inr (.inr ⟨hspace, hquote, hbackslash, hdollar, ?_⟩)
      rw [literalChar, hwritten, replaceChar_of_not_mem]
      simpa using Ne.symm hdollar

/-- No control character is written. -/
theorem space_le_of_mem_literalChar {c d : Char} (h : d ∈ literalChar c) : 0x20 ≤ d.toNat := by
  obtain ⟨letter, -, -, hvisible, hwritten⟩ | ⟨hcontrol, hwritten⟩ | ⟨hspace, -, -, -, hwritten⟩ :=
    literalChar_cases c
  · rw [hwritten] at h
    simp only [List.mem_cons, List.not_mem_nil, or_false] at h
    obtain rfl | rfl := h
    · decide
    · exact hvisible
  · rw [hwritten] at h
    simp only [List.mem_cons] at h
    obtain rfl | rfl | rfl | rfl | h := h
    · decide
    · decide
    · decide
    · decide
    · exact space_le_of_mem_hexPair hcontrol h
  · rw [hwritten, List.mem_singleton] at h
    rwa [h]

/-! ## Reading what is written -/

theorem readParts_letter {letter c : Char} (hvalue : letterEscape? letter = some c)
    (hletter : letter ≠ 'u') (rest : List Char) :
    readParts ('\\' :: letter :: rest) = (readParts rest).map (.escaped c :: ·) := by
  rw [readParts]
  · rw [hvalue]
    cases readParts rest <;> rfl
  · rintro a b c d more ⟨⟩
    exact absurd rfl hletter

theorem readParts_plain {c : Char} (h : c ≠ '\\') (rest : List Char) :
    readParts (c :: rest) = (readParts rest).map (.plain c :: ·) := by
  rw [readParts]
  · rw [if_neg h]
    cases readParts rest <;> rfl
  · rintro a b c d more ⟨⟩
    exact absurd rfl h
  · rintro letter more ⟨⟩
    exact absurd rfl h

theorem readParts_control {c : Char} (h : c.toNat < 0x20) (rest : List Char) :
    readParts ('\\' :: 'u' :: '0' :: '0' :: hexPair c.toNat ++ rest) =
      (readParts rest).map (.escaped c :: ·) := by
  change readParts ('\\' :: 'u' :: '0' :: '0' :: Nat.digitChar (c.toNat / 16) ::
    Nat.digitChar (c.toNat % 16) ::
    rest) = _
  have hcode : codePoint? c.toNat = some c := by
    rw [codePoint?, if_pos (show c.toNat.isValidChar from c.valid), Char.ofNat_toNat]
  have hescape :
      (hexNumber? ['0', '0', Nat.digitChar (c.toNat / 16), Nat.digitChar (c.toNat % 16)]).bind
      codePoint? = some c := by
    rw [show hexNumber? ['0', '0', Nat.digitChar (c.toNat / 16), Nat.digitChar (c.toNat % 16)] =
      some c.toNat from
      hexNumber?_hexPair _ h]
    exact hcode
  rw [readParts, hescape]
  cases readParts rest <;> rfl

/-- What is written for a character is read as one part with its value, which is no quote and no
dollar sign that stands for itself. -/
theorem readParts_literalChar (c : Char) (rest : List Char) :
    ∃ part : LiteralPart, part.value = c ∧ part ≠ .plain '"' ∧ part ≠ .plain '$' ∧
      readParts (literalChar c ++ rest) = (readParts rest).map (part :: ·) := by
  obtain ⟨letter, hvalue, hletter, -, hwritten⟩ | ⟨hcontrol, hwritten⟩ |
    ⟨-, hquote, hbackslash, hdollar, hwritten⟩ := literalChar_cases c
  · rw [hwritten]
    exact ⟨.escaped c, rfl, by simp, by simp, readParts_letter hvalue hletter rest⟩
  · rw [hwritten]
    exact ⟨.escaped c, rfl, by simp, by simp, readParts_control hcontrol rest⟩
  · rw [hwritten]
    exact ⟨.plain c, rfl, by simpa using hquote, by simpa using hdollar,
      readParts_plain hbackslash rest⟩

theorem readParts_literalBody (cs : List Char) :
    ∃ parts, readParts (literalBody cs) = some parts ∧ parts.map LiteralPart.value = cs ∧
      .plain '"' ∉ parts ∧ .plain '$' ∉ parts := by
  rw [literalBody_eq_flatMap]
  induction cs with
  | nil => exact ⟨[], rfl, rfl, by simp, by simp⟩
  | cons c rest ih =>
    obtain ⟨parts, hread, hvalues, hquote, hdollar⟩ := ih
    obtain ⟨part, hvalue, hnotQuote, hnotDollar, hpart⟩ :=
      readParts_literalChar c (rest.flatMap literalChar)
    refine ⟨part :: parts, ?_, by rw [List.map_cons, hvalue, hvalues], ?_, ?_⟩
    · rw [List.flatMap_cons, hpart, hread]
      rfl
    · exact List.not_mem_cons_of_ne_of_not_mem (Ne.symm hnotQuote) hquote
    · exact List.not_mem_cons_of_ne_of_not_mem (Ne.symm hnotDollar) hdollar

/-- The literal of a text stands in double quotes on one line, without any control character.
Between the quotes, every quote and every dollar sign is escaped, and what is read there is the
text. -/
theorem literal_reads_back (s : String) : ∃ body parts,
    (literal (.str s)).toList = '"' :: body ++ ['"'] ∧ (∀ c ∈ body, 0x20 ≤ c.toNat) ∧
    readParts body = some parts ∧ .plain '"' ∉ parts ∧ .plain '$' ∉ parts ∧
    String.ofList (parts.map LiteralPart.value) = s := by
  obtain ⟨parts, hread, hvalues, hquote, hdollar⟩ := readParts_literalBody s.toList
  refine ⟨literalBody s.toList, parts, ?_, fun d hd => ?_, hread, hquote, hdollar, ?_⟩
  · rw [literal, Json.display, String.toList_ofList, stringLiteral_eq]
  · rw [literalBody_eq_flatMap] at hd
    obtain ⟨c, -, hmem⟩ := List.mem_flatMap.1 hd
    exact space_le_of_mem_literalChar hmem
  · rw [hvalues, String.ofList_toList]

/-- A dollar sign between backslashes and quotes. -/
example : readParts (literalBody "\\$\"\n".toList) =
    some [.escaped '\\', .escaped '$', .escaped '"', .escaped '\n'] := by decide

end DartRecords.Dart
