import DartRecords.Proofs.StoredTexts

/-!
# Bytes that are decoded

A decoder accepts no more than what encoding gives: the sequence of a character is the only one that
is decoded to that character (`utf8EncodeChar_codePoint`), and what is decoded is a list of such
sequences.  So bytes are decoded exactly if they are the bytes of a text (`decode_eq_ok_iff`).
-/

namespace DartRecords.Text.Utf8

/-! ## The character of a sequence -/

/-- The sequences of each width, by what their bytes may be. -/
inductive SequenceShape : UInt8 → List UInt8 → Prop where
  | one {a : UInt8} : a.toNat < 0x80 → SequenceShape a []
  | two {a b : UInt8} : 0xC2 ≤ a.toNat ∧ a.toNat ≤ 0xDF → mayFollow a b = true → SequenceShape a [b]
  | three {a b c : UInt8} : 0xE0 ≤ a.toNat ∧ a.toNat ≤ 0xEF → mayFollow a b = true →
    isContinuation c = true →
      SequenceShape a [b, c]
  | four {a b c d : UInt8} : 0xF0 ≤ a.toNat ∧ a.toNat ≤ 0xF4 → mayFollow a b = true →
    isContinuation c = true →
      isContinuation d = true → SequenceShape a [b, c, d]

theorem IsSequence.shape {first : UInt8} {tail : List UInt8} (h : IsSequence first tail) :
    SequenceShape first tail := by
  obtain ⟨hlength, hsecond, hothers⟩ := h
  rw [sequenceLength?_eq] at hlength
  obtain _ | ⟨b, _ | ⟨c, _ | ⟨d, _ | ⟨e, rest⟩⟩⟩⟩ := tail
  · exact .one (by grind)
  · exact .two (by grind) (hsecond b rfl)
  · exact .three (by grind) (hsecond b rfl) (hothers c (by simp))
  · exact .four (by grind) (hsecond b rfl) (hothers c (by simp)) (hothers d (by simp))
  · grind

theorem eq_of_toNat_eq {n : ℕ} {b : UInt8} (h : n = b.toNat) : UInt8.ofNat n = b := by
  rw [h, UInt8.ofNat_toNat]

section Widths

variable {n : ℕ}

theorem utf8EncodeChar_ofNat (h : n.isValidChar) :
    String.utf8EncodeChar (Char.ofNat n) =
      if n ≤ 0x7F then [UInt8.ofNat n]
      else if n ≤ 0x7FF then [UInt8.ofNat (n / 64 % 32 + 192), UInt8.ofNat (n % 64 + 128)]
      else if n ≤ 0xFFFF then
        [UInt8.ofNat (n / 4096 % 16 + 224), UInt8.ofNat (n / 64 % 64 + 128),
          UInt8.ofNat (n % 64 + 128)]
      else
        [UInt8.ofNat (n / 262144 % 8 + 240), UInt8.ofNat (n / 4096 % 64 + 128),
          UInt8.ofNat (n / 64 % 64 + 128), UInt8.ofNat (n % 64 + 128)] := by
  have hcode : (Char.ofNat n).val.toNat = n := by
    rw [Char.ofNat, dif_pos h]
    rfl
  rw [String.utf8EncodeChar, hcode]

/-- A sequence is how its character is encoded. -/
theorem utf8EncodeChar_codePoint {first : UInt8} {tail : List UInt8} (h : IsSequence first tail) :
    String.utf8EncodeChar (Char.ofNat (codePoint first tail)) = first :: tail := by
  cases h.shape with
  | one ha =>
    have hcode : codePoint first [] = first.toNat := rfl
    rw [utf8EncodeChar_ofNat (.inl (by omega)), if_pos (by omega), eq_of_toNat_eq hcode]
  | @two b ha hb =>
    have hcode : codePoint first [b] = first.toNat % 32 * 64 + b.toNat % 64 := rfl
    rw [mayFollow_iff] at hb
    generalize codePoint first [b] = n at hcode ⊢
    have h₁ : n / 64 % 32 + 192 = first.toNat := by omega
    have h₂ : n % 64 + 128 = b.toNat := by omega
    rw [utf8EncodeChar_ofNat (.inl (by omega)), if_neg (by omega), if_pos (by omega),
      eq_of_toNat_eq h₁, eq_of_toNat_eq h₂]
  | @three b c ha hb hc =>
    have hcode : codePoint first [b, c] = (first.toNat % 16 * 64 + b.toNat % 64) * 64 +
        c.toNat % 64 := rfl
    rw [mayFollow_iff] at hb
    rw [isContinuation_iff] at hc
    generalize codePoint first [b, c] = n at hcode ⊢
    have h₁ : n / 4096 % 16 + 224 = first.toNat := by omega
    have h₂ : n / 64 % 64 + 128 = b.toNat := by omega
    have h₃ : n % 64 + 128 = c.toNat := by omega
    -- After the first byte 0xED no second byte leads to a surrogate.
    have hvalid : n < 0xD800 ∨ 0xDFFF < n ∧ n < 0x110000 := by omega
    rw [utf8EncodeChar_ofNat hvalid, if_neg (by omega), if_neg (by omega), if_pos (by omega),
      eq_of_toNat_eq h₁, eq_of_toNat_eq h₂, eq_of_toNat_eq h₃]
  | @four b c d ha hb hc hd =>
    have hcode : codePoint first [b, c, d] =
        ((first.toNat % 8 * 64 + b.toNat % 64) * 64 + c.toNat % 64) * 64 + d.toNat % 64 := rfl
    rw [mayFollow_iff] at hb
    rw [isContinuation_iff] at hc hd
    generalize codePoint first [b, c, d] = n at hcode ⊢
    have h₁ : n / 262144 % 8 + 240 = first.toNat := by omega
    have h₂ : n / 4096 % 64 + 128 = b.toNat := by omega
    have h₃ : n / 64 % 64 + 128 = c.toNat := by omega
    have h₄ : n % 64 + 128 = d.toNat := by omega
    have hvalid : n < 0xD800 ∨ 0xDFFF < n ∧ n < 0x110000 := by omega
    rw [utf8EncodeChar_ofNat hvalid, if_neg (by omega), if_neg (by omega), if_neg (by omega),
      eq_of_toNat_eq h₁, eq_of_toNat_eq h₂, eq_of_toNat_eq h₃, eq_of_toNat_eq h₄]

end Widths

/-! ## Whole texts -/

/-- The bytes that are taken after a first byte make a sequence with it, if they are as many as it
asks for. -/
theorem isSequence_continuations {first : UInt8} {count : ℕ} {rest : List UInt8}
    (hfirst : sequenceLength? first = some (count + 1))
    (hcount : (continuations first count rest).length = count) :
    IsSequence first (continuations first count rest) ∧ continuations first count rest =
      rest.take count := by
  rw [← hcount] at hfirst
  obtain _ | count := count
  · rw [continuations] at hfirst ⊢
    exact ⟨⟨hfirst, by simp, by simp⟩, rfl⟩
  · obtain _ | ⟨b, rest⟩ := rest
    · cases hcount
    · rw [continuations] at hfirst hcount ⊢
      by_cases hb : mayFollow first b = true
      · rw [if_pos hb] at hfirst hcount ⊢
        have htail : (rest.take count).takeWhile isContinuation = rest.take count := by
          refine (List.takeWhile_prefix isContinuation).eq_of_length_le ?_
          rw [List.length_cons, Nat.add_right_cancel_iff] at hcount
          rw [hcount]
          exact List.length_take_le count rest
        refine ⟨⟨hfirst, by simpa using hb, fun c hc => ?_⟩, by rw [htail, List.take_succ_cons]⟩
        exact List.all_eq_true.1 List.all_takeWhile c hc
      · rw [if_neg hb] at hcount
        cases hcount

/-- Decoded bytes are those of the characters that they are decoded to. -/
theorem eq_flatMap_of_decodeFrom {bytes : List UInt8} {pos : ℕ} {cs : List Char}
    (h : decodeFrom pos 0 bytes = .ok cs) : bytes = cs.flatMap String.utf8EncodeChar := by
  induction hn : bytes.length using Nat.strong_induction_on generalizing bytes pos cs with
  | _ n ih =>
    obtain _ | ⟨b, rest⟩ := bytes
    · cases h
      rfl
    rw [decodeFrom] at h
    split at h
    · cases h
    · next length hlength =>
      dsimp only at h
      split at h
      · next hcount =>
        have hpos : length = length - 1 + 1 := by
          rw [sequenceLength?_eq] at hlength
          grind
        obtain ⟨hsequence, htake⟩ := isSequence_continuations (hpos ▸ hlength) hcount
        split at h
        · cases h
        · next others hothers =>
          cases h
          have hpassed :=
            decodeFrom_skip (pos + 1) (continuations b (length - 1) rest) (rest.drop (length - 1))
          rw [hcount, htake, List.take_append_drop] at hpassed
          rw [List.flatMap_cons, utf8EncodeChar_codePoint hsequence,
            ← ih _ (by rw [← hn, List.length_cons, List.length_drop]; omega)
              (hpassed.symm.trans hothers) rfl,
            List.cons_append, htake, List.take_append_drop]
      · split at h
        · cases h
        · cases h

/-- Bytes are decoded to a text exactly if they are its bytes. -/
theorem decode_eq_ok_iff {bytes : List UInt8} {cs : List Char} :
    decode bytes = .ok cs ↔ bytes = encode (String.ofList cs) := by
  constructor
  · intro h
    rw [encode_ofList]
    exact eq_flatMap_of_decodeFrom h
  · rintro rfl
    exact decode_encode cs

/-- The bytes are not those of any text. -/
def NoText (bytes : List UInt8) : Prop := ∀ text : String, bytes ≠ encode text

theorem exists_decode_eq_error_iff {bytes : List UInt8} :
    (∃ e, decode bytes = .error e) ↔ NoText bytes := by
  constructor
  · rintro ⟨e, he⟩ text rfl
    rw [← String.ofList_toList (s := text), decode_encode] at he
    cases he
  · intro h
    cases hdecode : decode bytes with
    | error e => exact ⟨e, rfl⟩
    | ok cs => exact absurd (decode_eq_ok_iff.1 hdecode) (h _)

end DartRecords.Text.Utf8
