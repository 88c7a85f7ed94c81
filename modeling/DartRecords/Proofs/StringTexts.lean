import DartRecords.Json.Parser
import DartRecords.Json.Printer

/-!
# Reading strings back

A string is written character by character, and `escapeChar_cases` is the inversion of that.
Whatever follows, the reader takes what is written for a character as this character
(`string_escapeChar`), and so by induction it reads every string back (`string_body`).
-/

namespace DartRecords.Json

/-- The letters that may follow a backslash in JSON text that is written here, with the characters
that they stand for. -/
def letterEscapes : List (Char × Char) :=
  [('"', '"'), ('\\', '\\'), ('n', '\n'), ('r', '\r'), ('t', '\t'), ('b', '\x08'), ('f', '\x0c')]

/-- The two hexadecimal digits of a number below 256. -/
def hexPair (n : Nat) : List Char := [Nat.digitChar (n / 16), Nat.digitChar (n % 16)]

theorem hexPadded_of_lt_space :
    ∀ n < 0x20, Text.hexPadded 4 n = '0' :: '0' :: hexPair n := by decide

/-- A character is written as an escape of one letter, as an escape of four digits, or as it is. -/
theorem escapeChar_cases (c : Char) :
    (∃ e, (e, c) ∈ letterEscapes ∧ escapeChar c = ['\\', e]) ∨
    (c.toNat < 0x20 ∧ escapeChar c = '\\' :: 'u' :: '0' :: '0' :: hexPair c.toNat) ∨
    (0x20 ≤ c.toNat ∧ c ≠ '"' ∧ c ≠ '\\' ∧ escapeChar c = [c]) := by
  by_cases hletter : c ∈ letterEscapes.map Prod.snd
  · obtain ⟨⟨e, d⟩, hmem, rfl⟩ := List.mem_map.1 hletter
    have hwritten : ∀ p ∈ letterEscapes, escapeChar p.2 = ['\\', p.1] := by decide
    exact .inl ⟨e, hmem, hwritten _ hmem⟩
  · simp only [letterEscapes, List.map_cons, List.map_nil, List.mem_cons,
      List.not_mem_nil, or_false, not_or] at hletter
    obtain ⟨hquote, hbackslash, hn, hr, ht, hb, hf⟩ := hletter
    have hwritten : escapeChar c =
        if c.toNat < 0x20 then '\\' :: 'u' :: Text.hexPadded 4 c.toNat else [c] := by
      simp [escapeChar, hquote, hbackslash, hn, hr, ht, hb, hf]
    by_cases hcontrol : c.toNat < 0x20
    · rw [if_pos hcontrol, hexPadded_of_lt_space _ hcontrol] at hwritten
      exact .inr (.inl ⟨hcontrol, hwritten⟩)
    · rw [if_neg hcontrol] at hwritten
      exact .inr (.inr ⟨Nat.le_of_not_lt hcontrol, hquote, hbackslash, hwritten⟩)

theorem hexNumber?_hexPair :
    ∀ n < 0x20, Text.hexNumber? ('0' :: '0' :: hexPair n) = some n := by decide

theorem all_space_le_hexPair :
    ∀ n < 0x20, (hexPair n).all (fun d => 0x20 ≤ d.toNat) = true := by decide

theorem space_le_of_mem_hexPair {n : Nat} (hn : n < 0x20) {d : Char} (hd : d ∈ hexPair n) :
    0x20 ≤ d.toNat :=
  of_decide_eq_true (List.all_eq_true.1 (all_space_le_hexPair n hn) d hd)

namespace Parser

variable [LoneHalves]

theorem string_letter {letter c : Char} (h : (letter, c) ∈ letterEscapes) (start fuel : Nat)
    (seen : List Char) (pos : Nat) (cs : List Char) :
    string start (fuel + 1) seen ⟨pos, '\\' :: letter :: cs⟩ =
      string start fuel (c :: seen) ⟨pos + 2, cs⟩ := by
  have hletters : ∀ p ∈ letterEscapes, simpleEscape? p.1 = some p.2 ∧ p.1 ≠ 'u' := by decide
  obtain ⟨hescape, hletter⟩ := hletters _ h
  rw [string, hescape]
  exact hletter

/-- The escape of a control character is read as this character. -/
theorem unicodeEscape_hexPair {c : Char} (hc : c.toNat < 0x20) (pos : Nat) {cs : List Char}
    (hcs : cs ≠ []) :
    unicodeEscape pos ('0' :: '0' :: hexPair c.toNat ++ cs) = .ok (c, ⟨pos + 4, cs⟩) := by
  have hrest : cs.isEmpty = false := List.isEmpty_eq_false_iff.2 hcs
  have hunit : unicodeUnit pos ('0' :: '0' :: hexPair c.toNat ++ cs) =
      .ok (c.toNat, ⟨pos + 4, cs⟩) := by
    rw [unicodeUnit, show ('0' :: '0' :: hexPair c.toNat ++ cs).drop 4 = cs from rfl,
      show ('0' :: '0' :: hexPair c.toNat ++ cs).take 4 = '0' :: '0' :: hexPair c.toNat
        from rfl, hrest,
      if_neg Bool.false_ne_true, hexNumber?_hexPair _ hc]
  have hhigh : isHighSurrogate c.toNat = false := by
    simp only [isHighSurrogate, Bool.and_eq_false_iff, decide_eq_false_iff_not]
    omega
  have hlow : isLowSurrogate c.toNat = false := by
    simp only [isLowSurrogate, Bool.and_eq_false_iff, decide_eq_false_iff_not]
    omega
  rw [unicodeEscape, hunit]
  simp only [hhigh, Bool.false_and, Bool.false_eq_true, if_false, unitChar, hlow, Bool.or_false,
    Char.ofNat_toNat]

/-- What is written for a character is read as this character, if the string goes on behind it. -/
theorem string_escapeChar (c : Char) (start fuel : Nat) (seen : List Char) (pos : Nat)
    {cs : List Char} (hcs : cs ≠ []) :
    ∃ next, string start (fuel + 1) seen ⟨pos, escapeChar c ++ cs⟩ =
      string start fuel (c :: seen) ⟨next, cs⟩ := by
  obtain ⟨letter, hletter, hwritten⟩ | ⟨hcontrol, hwritten⟩ |
    ⟨hspace, hquote, hbackslash, hwritten⟩ :=
    escapeChar_cases c
  · exact ⟨_, by rw [hwritten]; exact string_letter hletter start fuel seen pos cs⟩
  · refine ⟨pos + 2 + 4, ?_⟩
    rw [hwritten]
    change string start (fuel + 1) seen ⟨pos,
      '\\' :: 'u' :: ('0' :: '0' :: hexPair c.toNat ++ cs)⟩ = _
    rw [string, unicodeEscape_hexPair hcontrol _ hcs]
  · refine ⟨pos + 1, ?_⟩
    rw [hwritten, List.singleton_append, string, if_neg (Nat.not_lt.2 hspace)]
    · exact hquote
    · rintro hletter -
      exact hbackslash hletter
    · rintro rest hletter -
      exact hbackslash hletter
    · rintro letter rest hletter -
      exact hbackslash hletter

/-- A string is read back whatever follows. -/
theorem string_body (s : List Char) (start fuel : Nat) (hfuel : s.length < fuel) (seen : List Char)
    (pos : Nat) (rest : List Char) :
    ∃ next, string start fuel seen ⟨pos, s.flatMap escapeChar ++ '"' :: rest⟩ =
      .ok (String.ofList (seen.reverse ++ s), ⟨next, rest⟩) := by
  induction s generalizing fuel seen pos with
  | nil =>
    obtain ⟨fuel, rfl⟩ := Nat.exists_eq_succ_of_ne_zero (Nat.ne_of_gt hfuel)
    exact ⟨pos + 1, by rw [List.append_nil]; rfl⟩
  | cons c s ih =>
    obtain ⟨fuel, rfl⟩ := Nat.exists_eq_succ_of_ne_zero (Nat.ne_zero_of_lt hfuel)
    rw [List.flatMap_cons, List.append_assoc]
    have hmore : s.flatMap escapeChar ++ '"' :: rest ≠ [] :=
      List.append_ne_nil_of_right_ne_nil _ (List.cons_ne_nil _ _)
    obtain ⟨next, hnext⟩ := string_escapeChar c start fuel seen pos hmore
    obtain ⟨last, hlast⟩ := ih fuel (Nat.lt_of_succ_lt_succ hfuel) (c :: seen) next
    exact ⟨last, by rw [hnext, hlast, List.reverse_cons, List.append_assoc]; rfl⟩

end Parser

end DartRecords.Json
