import DartRecords.FileSystem.Document
import DartRecords.Proofs.FileSystem
import DartRecords.Proofs.ReadValues

/-!
# Texts in files

A text that is written to a file is read from it again.

* `decode_encode`: decoding undoes encoding.  The bytes of one character form a sequence whose first
  byte tells its length (`exists_encodes`), and a decoder passes over one such sequence at a time
  (`decodeFrom_sequence`).
* `return_not_mem_indented`: no carriage return stands in the indented text of a value, so unifying
  line endings leaves it as it is.
* `FileSystem.readJson_write_eq_ok_iff`: a readable value is read from the file that it was written
  to, if the limits allow for it.
-/

namespace DartRecords.Text.Utf8

/-! ## Bytes of a text -/

theorem toList_loop (bytes : ByteArray) (i : ℕ) (seen : List UInt8) :
    ByteArray.toList.loop bytes i seen = seen.reverse ++ bytes.data.toList.drop i := by
  fun_induction ByteArray.toList.loop bytes i seen with
  | case1 i seen hi ih =>
    have hlength : i < bytes.data.toList.length := hi
    have hget : bytes.get! i = bytes.data.toList[i] := getElem!_pos bytes.data i hi
    rw [ih, List.reverse_cons, List.append_assoc, List.singleton_append, hget,
      List.cons_getElem_drop_succ]
  | case2 i seen hi =>
    have hlength : bytes.data.toList.length ≤ i := Nat.le_of_not_lt hi
    rw [List.drop_eq_nil_of_le hlength, List.append_nil]

theorem toList_toByteArray (bytes : List UInt8) : bytes.toByteArray.toList = bytes := by
  rw [ByteArray.toList, toList_loop, List.toList_data_toByteArray]
  rfl

/-- A text is encoded character by character. -/
theorem encode_ofList (cs : List Char) :
    encode (String.ofList cs) = cs.flatMap String.utf8EncodeChar :=
  toList_toByteArray _

/-! ## The sequence of one character -/

/-- The bytes of one character: the first tells how many there are, and the others may follow it. -/
structure IsSequence (first : UInt8) (tail : List UInt8) : Prop where
  length : sequenceLength? first = some (tail.length + 1)
  second : ∀ b ∈ tail.head?, mayFollow first b = true
  others : ∀ b ∈ tail.tail, isContinuation b = true

theorem IsSequence.continuations_append {first : UInt8} {tail : List UInt8}
    (h : IsSequence first tail) (rest : List UInt8) :
    continuations first tail.length (tail ++ rest) = tail := by
  cases tail with
  | nil => rfl
  | cons b tail =>
    have hothers : tail.takeWhile isContinuation = tail := by
      simpa using @List.takeWhile_append_of_pos _ isContinuation tail [] h.others
    rw [List.cons_append, List.length_cons, continuations, h.second b rfl, if_pos rfl,
      List.take_left, hothers]

theorem decodeFrom_skip (pos : ℕ) (passed rest : List UInt8) :
    decodeFrom pos passed.length (passed ++ rest) = decodeFrom (pos + passed.length) 0 rest := by
  induction passed generalizing pos with
  | nil => rfl
  | cons b passed ih =>
    rw [List.cons_append, List.length_cons, decodeFrom, ih, Nat.add_assoc, Nat.add_comm 1]

/-- Decoding passes over the sequence of one character. -/
theorem decodeFrom_sequence {first : UInt8} {tail : List UInt8} (h : IsSequence first tail)
    (pos : ℕ) {rest : List UInt8} {cs : List Char}
    (hrest : decodeFrom (pos + 1 + tail.length) 0 rest = .ok cs) :
    decodeFrom pos 0 (first :: tail ++ rest) = .ok (Char.ofNat (codePoint first tail) :: cs) := by
  rw [List.cons_append, decodeFrom, h.length]
  dsimp only
  rw [Nat.add_sub_cancel, h.continuations_append, if_pos rfl, decodeFrom_skip, hrest]

theorem isContinuation_iff {b : UInt8} :
    isContinuation b = true ↔ 0x80 ≤ b.toNat ∧ b.toNat ≤ 0xBF := by
  simp only [isContinuation, Bool.and_eq_true, decide_eq_true_eq, UInt8.le_iff_toNat_le]
  rfl

theorem mayFollow_iff {first second : UInt8} :
    mayFollow first second = true ↔ (0x80 ≤ second.toNat ∧ second.toNat ≤ 0xBF) ∧
      (first.toNat = 0xE0 → 0xA0 ≤ second.toNat) ∧ (first.toNat = 0xED → second.toNat < 0xA0) ∧
      (first.toNat = 0xF0 → 0x90 ≤ second.toNat) ∧ (first.toNat = 0xF4 → second.toNat < 0x90) := by
  simp only [mayFollow, isContinuation_iff, Bool.and_eq_true, Bool.not_eq_true',
    Bool.and_eq_false_iff, beq_eq_false_iff_ne, decide_eq_false_iff_not, ne_eq, ← UInt8.toNat_inj,
    UInt8.lt_iff_toNat_lt, UInt8.le_iff_toNat_le]
  have hconstants : (0xE0 : UInt8).toNat = 0xE0 ∧ (0xED : UInt8).toNat = 0xED ∧
      (0xF0 : UInt8).toNat = 0xF0 ∧
      (0xF4 : UInt8).toNat = 0xF4 ∧ (0xA0 : UInt8).toNat = 0xA0 ∧
      (0x90 : UInt8).toNat = 0x90 := by decide
  omega

theorem sequenceLength?_eq (b : UInt8) :
    sequenceLength? b =
      if b.toNat < 0x80 then some 1 else if 0xC2 ≤ b.toNat ∧ b.toNat ≤ 0xDF then some 2
      else if 0xE0 ≤ b.toNat ∧ b.toNat ≤ 0xEF then some 3
      else if 0xF0 ≤ b.toNat ∧ b.toNat ≤ 0xF4 then some 4 else none := by
  simp only [sequenceLength?, UInt8.lt_iff_toNat_lt, UInt8.le_iff_toNat_le, Bool.and_eq_true,
    decide_eq_true_eq]
  rfl

/-- The bytes are the sequence of a code point. -/
structure Encodes (n : ℕ) (first : UInt8) (tail : List UInt8) :
    Prop extends IsSequence first tail where
  codePoint : codePoint first tail = n

section Widths

variable {n : ℕ}

theorem encodes_one (hn : n ≤ 0x7F) : Encodes n (UInt8.ofNat n) [] := by
  have h₁ := UInt8.toNat_ofNat_of_lt' (show n < 256 by omega)
  refine ⟨⟨?_, ?_, ?_⟩, h₁⟩
  · rw [sequenceLength?_eq, h₁, if_pos (by omega)]
    rfl
  · rintro _ ⟨⟩
  · rintro _ ⟨⟩

theorem encodes_two (hlow : 0x7F < n) (hn : n ≤ 0x7FF) :
    Encodes n (UInt8.ofNat (n / 64 % 32 + 192)) [UInt8.ofNat (n % 64 + 128)] := by
  have h₁ := UInt8.toNat_ofNat_of_lt' (show n / 64 % 32 + 192 < 256 by omega)
  have h₂ := UInt8.toNat_ofNat_of_lt' (show n % 64 + 128 < 256 by omega)
  refine ⟨⟨?_, ?_, ?_⟩, ?_⟩
  · rw [sequenceLength?_eq, h₁, if_neg (by omega), if_pos (by omega)]
    rfl
  · rintro _ ⟨⟩
    rw [mayFollow_iff, h₁, h₂]
    omega
  · rintro _ ⟨⟩
  · simp only [Utf8.codePoint, List.foldl_cons, List.foldl_nil, List.length_cons,
      List.length_nil, h₁, h₂]
    omega

/-- The codes of surrogates are left out, and their sequences with them. -/
theorem encodes_three (hlow : 0x7FF < n) (hn : n ≤ 0xFFFF) (hvalid : n < 0xD800 ∨ 0xDFFF < n) :
    Encodes n (UInt8.ofNat (n / 4096 % 16 + 224))
      [UInt8.ofNat (n / 64 % 64 + 128), UInt8.ofNat (n % 64 + 128)] := by
  have h₁ := UInt8.toNat_ofNat_of_lt' (show n / 4096 % 16 + 224 < 256 by omega)
  have h₂ := UInt8.toNat_ofNat_of_lt' (show n / 64 % 64 + 128 < 256 by omega)
  have h₃ := UInt8.toNat_ofNat_of_lt' (show n % 64 + 128 < 256 by omega)
  refine ⟨⟨?_, ?_, ?_⟩, ?_⟩
  · rw [sequenceLength?_eq, h₁, if_neg (by omega), if_neg (by omega), if_pos (by omega)]
    rfl
  · rintro _ ⟨⟩
    rw [mayFollow_iff, h₁, h₂]
    omega
  · refine List.forall_mem_singleton.2 ?_
    rw [isContinuation_iff, h₃]
    omega
  · simp only [Utf8.codePoint, List.foldl_cons, List.foldl_nil, List.length_cons,
      List.length_nil, h₁, h₂, h₃]
    omega

theorem encodes_four (hlow : 0xFFFF < n) (hn : n < 0x110000) :
    Encodes n (UInt8.ofNat (n / 262144 % 8 + 240))
      [UInt8.ofNat (n / 4096 % 64 + 128), UInt8.ofNat (n / 64 % 64 + 128),
        UInt8.ofNat (n % 64 + 128)] := by
  have h₁ := UInt8.toNat_ofNat_of_lt' (show n / 262144 % 8 + 240 < 256 by omega)
  have h₂ := UInt8.toNat_ofNat_of_lt' (show n / 4096 % 64 + 128 < 256 by omega)
  have h₃ := UInt8.toNat_ofNat_of_lt' (show n / 64 % 64 + 128 < 256 by omega)
  have h₄ := UInt8.toNat_ofNat_of_lt' (show n % 64 + 128 < 256 by omega)
  refine ⟨⟨?_, ?_, ?_⟩, ?_⟩
  · rw [sequenceLength?_eq, h₁, if_neg (by omega), if_neg (by omega), if_neg (by omega),
      if_pos (by omega)]
    rfl
  · rintro _ ⟨⟩
    rw [mayFollow_iff, h₁, h₂]
    omega
  · refine List.forall_mem_cons.2 ⟨?_, List.forall_mem_singleton.2 ?_⟩
    · rw [isContinuation_iff, h₃]
      omega
    · rw [isContinuation_iff, h₄]
      omega
  · simp only [Utf8.codePoint, List.foldl_cons, List.foldl_nil, List.length_cons, List.length_nil,
      h₁, h₂, h₃, h₄]
    omega

end Widths

/-- A character is encoded as a sequence of its code point. -/
theorem exists_encodes (c : Char) :
    ∃ first tail, String.utf8EncodeChar c = first :: tail ∧ Encodes c.toNat first tail := by
  have hvalid : c.val.toNat < 0xD800 ∨ 0xDFFF < c.val.toNat ∧ c.val.toNat < 0x110000 := c.valid
  change ∃ first tail, _ ∧ Encodes c.val.toNat first tail
  rw [String.utf8EncodeChar]
  generalize c.val.toNat = n at hvalid ⊢
  split
  · next hone => exact ⟨_, _, rfl, encodes_one hone⟩
  · next hone =>
    split
    · next htwo => exact ⟨_, _, rfl, encodes_two (by omega) htwo⟩
    · next htwo =>
      split
      · next hthree => exact ⟨_, _, rfl, encodes_three (by omega) hthree (by omega)⟩
      · next hthree => exact ⟨_, _, rfl, encodes_four (by omega) (by omega)⟩

/-! ## Whole texts -/

theorem decodeFrom_encode (pos : ℕ) (cs : List Char) :
    decodeFrom pos 0 (cs.flatMap String.utf8EncodeChar) = .ok cs := by
  induction cs generalizing pos with
  | nil => rfl
  | cons c cs ih =>
    obtain ⟨first, tail, hbytes, hencodes⟩ := exists_encodes c
    rw [List.flatMap_cons, hbytes, decodeFrom_sequence hencodes.toIsSequence pos (ih _),
      hencodes.codePoint, Char.ofNat_toNat]

/-- Decoding undoes encoding. -/
theorem decode_encode (cs : List Char) : decode (encode (String.ofList cs)) = .ok cs := by
  rw [encode_ofList]
  exact decodeFrom_encode 0 cs

theorem unifyNewlines_of_not_mem {cs : List Char} (h : '\r' ∉ cs) : unifyNewlines cs = cs := by
  induction cs with
  | nil => rfl
  | cons c cs ih =>
    obtain ⟨hc, hcs⟩ := List.ne_and_not_mem_of_not_mem_cons h
    rw [unifyNewlines, if_neg (Ne.symm hc), ih hcs]
    rintro rest hreturn -
    exact hc hreturn.symm

end DartRecords.Text.Utf8

namespace DartRecords.Json

/-! ## Written values without carriage returns -/

theorem return_not_mem_toDigits (n : ℕ) : '\r' ∉ Nat.toDigits 10 n := fun h =>
  absurd (Parser.isDigit_of_mem_toDigits h) (by decide)

theorem return_not_mem_intText (n : ℤ) : '\r' ∉ intText n := by
  rw [intText]
  split
  · exact List.not_mem_cons_of_ne_of_not_mem (by decide) (return_not_mem_toDigits _)
  · exact return_not_mem_toDigits _

theorem return_not_mem_decimal (d : Binary64.Decimal) : '\r' ∉ d.toText := by
  have hdigits := return_not_mem_toDigits d.digits
  have hzeros : ∀ count, '\r' ∉ List.replicate count '0' :=
    fun _ h => absurd (List.eq_of_mem_replicate h) (by decide)
  have htake : ∀ count, '\r' ∉ (Nat.toDigits 10 d.digits).take count :=
    fun _ h => hdigits (List.mem_of_mem_take h)
  have hdrop : ∀ count, '\r' ∉ (Nat.toDigits 10 d.digits).drop count :=
    fun _ h => hdigits (List.mem_of_mem_drop h)
  have hpower := fun power : ℤ => return_not_mem_toDigits power.natAbs
  rw [Binary64.Decimal.toText]
  extract_lets power powerDigits padded sign lead
  have hpadded : '\r' ∉ padded := by
    simp only [padded]
    split
    · exact List.not_mem_cons_of_ne_of_not_mem (by decide) (hpower _)
    · exact hpower _
  have hsign : '\r' ≠ sign := by
    simp only [sign]
    split <;> decide
  have hlead : '\r' ∉ lead := by
    simp only [lead]
    split
    · exact List.not_mem_nil
    · next c hdigit => rwa [hdigit] at hdigits
    · next c rest _ hdigit =>
      rw [hdigit, List.mem_cons, not_or] at hdigits
      simp [hdigits]
  split
  · split
    · simp [hdigits, hzeros]
    · split
      · simp [htake, hdrop]
      · simp [hdigits, hzeros]
  · simp [hlead, hsign, hpadded]

theorem return_not_mem_real (x : Binary64) : '\r' ∉ x.toText jsonNames := by
  cases x with
  | nan => decide
  | infinite negative => cases negative <;> decide
  | finite negative mantissa exponent =>
    have hbody : '\r' ∉ if mantissa =
        0 then ['0', '.', '0'] else (Binary64.shortest mantissa exponent).toText := by
      split
      · decide
      · exact return_not_mem_decimal _
    rw [Binary64.toText]
    split
    · exact List.not_mem_cons_of_ne_of_not_mem (by decide) hbody
    · exact hbody

theorem return_not_mem_escapeChar (c : Char) : '\r' ∉ escapeChar c := by
  obtain ⟨letter, hletter, hwritten⟩ | ⟨hcontrol, hwritten⟩ | ⟨hspace, -, -, hwritten⟩ :=
    escapeChar_cases c
  · have hletters : ∀ p ∈ letterEscapes, '\r' ∉ ['\\', p.1] := by decide
    exact hwritten ▸ hletters _ hletter
  · have hpair : '\r' ∉ hexPair c.toNat :=
      fun h => absurd (space_le_of_mem_hexPair hcontrol h) (by decide)
    rw [hwritten]
    simp [hpair]
  · rw [hwritten]
    rintro h
    rw [← List.mem_singleton.1 h] at hspace
    exact absurd hspace (by decide)

theorem return_not_mem_stringText (cs : List Char) : '\r' ∉ stringText cs := by
  have hbody : '\r' ∉ cs.flatMap escapeChar := by
    intro h
    obtain ⟨c, -, hc⟩ := List.mem_flatMap.1 h
    exact return_not_mem_escapeChar c hc
  simp [stringText, hbody]

theorem return_not_mem_newline (depth : ℕ) : '\r' ∉ newline depth := by
  simp [newline]

theorem return_not_mem_scalarText (v : Json) : '\r' ∉ scalarText v := by
  cases v with
  | bool b => cases b <;> decide
  | int n => exact return_not_mem_intText n
  | real x => exact return_not_mem_real x
  | str s => exact return_not_mem_stringText s.toList
  | _ => exact (show '\r' ∉ "null".toList by decide)

mutual

theorem return_not_mem_indented (depth : ℕ) : (v : Json) → '\r' ∉ indented depth v
  | .arr [] => show '\r' ∉ ['[', ']'] by decide
  | .arr (v :: rest) => by
    have hitems := return_not_mem_indentedItems (depth + 1) (v :: rest)
    simp [indented, return_not_mem_newline, hitems]
  | .obj [] => show '\r' ∉ ['\x7b', '\x7d'] by decide
  | .obj (m :: rest) => by
    have hmembers := return_not_mem_indentedMembers (depth + 1) (m :: rest)
    simp [indented, return_not_mem_newline, hmembers]
  | .null => return_not_mem_scalarText .null
  | .bool b => return_not_mem_scalarText (.bool b)
  | .int n => return_not_mem_scalarText (.int n)
  | .real x => return_not_mem_scalarText (.real x)
  | .str s => return_not_mem_scalarText (.str s)

theorem return_not_mem_indentedItems (depth : ℕ) :
    (items : List Json) → '\r' ∉ indentedItems depth items
  | [] => List.not_mem_nil
  | [v] => return_not_mem_indented depth v
  | v :: w :: rest => by
    have hv := return_not_mem_indented depth v
    have hrest := return_not_mem_indentedItems depth (w :: rest)
    simp [indentedItems, return_not_mem_newline, hv, hrest]

theorem return_not_mem_indentedMembers (depth : ℕ) :
    (members : Members) → '\r' ∉ indentedMembers depth members
  | [] => List.not_mem_nil
  | [(key, v)] => by
    have hv := return_not_mem_indented depth v
    simp [indentedMembers, return_not_mem_stringText, hv]
  | (key, v) :: m :: rest => by
    have hv := return_not_mem_indented depth v
    have hrest := return_not_mem_indentedMembers depth (m :: rest)
    simp [indentedMembers, return_not_mem_stringText, return_not_mem_newline, hv, hrest]

end

end DartRecords.Json

namespace DartRecords

theorem parseDocument_eq_ok_iff [Limits] [Json.LoneHalves] {cs : List Char} {v : Json} :
    parseDocument cs = .ok v ↔ Json.parseChars cs = .ok v := by
  rw [parseDocument]
  cases Json.parseChars cs with
  | ok w => simp
  | error e => cases h : e.refusal? <;> simp [h]

end DartRecords

namespace DartRecords.FileSystem

/-! ## Reading what was written -/

variable {fs fs' : FileSystem} {p : Path}

/-- Whether a file can be written does not depend on the text. -/
theorem write_eq_ok_of_write {text : String} (h : fs.write p text = .ok fs') (other : String) :
    ∃ fs'', fs.write p other = .ok fs'' := by
  obtain ⟨hnull, place, hlocate, -, hnode, -⟩ := write_eq_ok h
  rw [write, edit, if_neg (by simp [hnull]), hlocate]
  dsimp only
  split
  · exact ⟨_, rfl⟩
  · next hdirectory => exact absurd hdirectory hnode
  · exact ⟨_, rfl⟩

/-- A file that was written is there, with the bytes of its text. -/
theorem locate_write {text : String} (h : fs.write p text = .ok fs') :
    p.hasNull = false ∧ ∃ place, fs'.locate p = .ok place ∧
      fs'.node? place = some (.file (Text.Utf8.encode text)) := by
  obtain ⟨hnull, place, hlocate, hne, hnode, rfl⟩ := write_eq_ok h
  refine ⟨hnull, place, (Keeps.put hne hnode _).locate hlocate, ?_⟩
  rw [node?_put hne, if_pos rfl]

theorem contains_write {text : String} (h : fs.write p text = .ok fs') :
    fs'.contains p = .ok true := by
  obtain ⟨hnull, place, hlocate, hnode⟩ := locate_write h
  rw [contains, lookup, if_neg (by simp [hnull]), hlocate]
  dsimp only
  rw [hnode]
  rfl

theorem read_write {text : String} (h : fs.write p text = .ok fs') :
    fs'.read p = .ok (Text.Utf8.encode text) := by
  obtain ⟨hnull, place, hlocate, hnode⟩ := locate_write h
  rw [read, if_neg (by simp [hnull]), hlocate]
  dsimp only
  rw [hnode]

/-- A readable value is read from the file that it was written to, exactly if the limits allow for
it. -/
theorem readJson_write_eq_ok_iff [Limits] [Json.LoneHalves] {v w : Json} (hv : v.Readable)
    (h : fs.write p v.toIndented = .ok fs') :
    fs'.readJson p = .ok w ↔ w = v ∧ v.nesting ≤ Limits.nesting := by
  rw [readJson, read_write h, Json.toIndented]
  dsimp only
  rw [Text.Utf8.decode_encode]
  dsimp only
  rw [Text.Utf8.unifyNewlines_of_not_mem (Json.return_not_mem_indented 0 v),
    parseDocument_eq_ok_iff, Json.parseChars_indented_eq_ok_iff hv]

end DartRecords.FileSystem
