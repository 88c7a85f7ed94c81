import DartRecords.Json.Parser
import DartRecords.Json.Printer
import DartRecords.Proofs.ShortestDecimals

/-!
# Reading numbers back

The text of a number has up to three parts: whole digits, a fraction, and a power of ten.
`NumberParts` keeps them apart.  The reader finds the parts of a proper text whatever follows it, as
long as that cannot continue a number (`number_text`).  The text of a double has parts with the
value of its shortest decimal in each of its four forms (`exists_parts_toText`), so it is read back
as the double (`readsScalar_real`), as whole numbers are (`readsScalar_int`).
-/

namespace DartRecords.Json.Parser

/-! ## Digits -/

theorem isDigit_of_mem_toDigits {n : ℕ} {c : Char} (h : c ∈ Nat.toDigits 10 n) :
    isDigit c = true := by
  have hdigit := Nat.isDigit_of_mem_toDigits (by decide) (by decide) h
  exact hdigit

theorem digitsValue_eq (cs : List Char) : digitsValue cs = Nat.ofDigitChars 10 cs 0 :=
  Nat.ofDigitChars_eq_foldl.symm

/-- The text does not go on with a digit. -/
def Stops (cs : List Char) : Prop := ∀ c ∈ cs.head?, isDigit c = false

theorem takeWhile_isDigit {ds rest : List Char} (hds : ∀ c ∈ ds, isDigit c = true)
    (hrest : Stops rest) :
    (ds ++ rest).takeWhile isDigit = ds := by
  rw [List.takeWhile_append_of_pos hds]
  cases rest with
  | nil => simp
  | cons c rest =>
    rw [List.takeWhile_cons_of_neg (by simp [hrest c rfl]), List.append_nil]

/-- The digits of a positive number do not start with a zero. -/
theorem exists_lead {n : ℕ} (hn : 0 < n) : ∃ c more, Nat.toDigits 10 n = c :: more ∧ c ≠ '0' := by
  induction n using Nat.strongRecOn with
  | ind n ih =>
    rw [Nat.toDigits_eq_if (by decide)]
    split
    · next hsmall =>
      have hdigits : ∀ d < 10, 0 < d → Nat.digitChar d ≠ '0' := by decide
      exact ⟨_, [], rfl, hdigits n hsmall hn⟩
    · next hlarge =>
      obtain ⟨c, more, hlead, hc⟩ := ih (n / 10) (by omega) (by omega)
      exact ⟨c, more ++ [(n % 10).digitChar], by rw [hlead, List.cons_append], hc⟩

/-! ## The parts of a number -/

/-- The parts of the text of a number. -/
structure NumberParts where
  whole : List Char
  fraction : List Char
  power : Option ℤ

/-- The text of a fraction. -/
def fractionText (fraction : List Char) : List Char :=
  if fraction.isEmpty then [] else '.' :: fraction

/-- The digits of a power of ten, of which there are at least two. -/
def powerDigits (power : ℤ) : List Char :=
  if (Nat.toDigits 10 power.natAbs).length < 2 then '0' :: Nat.toDigits 10 power.natAbs
  else Nat.toDigits 10 power.natAbs

/-- The text of a power of ten. -/
def powerText : Option ℤ → List Char
  | none => []
  | some power => 'e' :: (if power < 0 then '-' else '+') :: powerDigits power

namespace NumberParts

def text (p : NumberParts) : List Char := p.whole ++ (fractionText p.fraction ++ powerText p.power)

/-- The exponent of the last digit. -/
def exponent (p : NumberParts) : ℤ := p.power.getD 0 - p.fraction.length

/-- The parts are those of the text of a number. -/
structure Proper (p : NumberParts) : Prop where
  whole : ∀ c ∈ p.whole, isDigit c = true
  lead : p.whole = ['0'] ∨ ∃ c more, p.whole = c :: more ∧ c ≠ '0'
  fraction : ∀ c ∈ p.fraction, isDigit c = true

/-- The number that is read from the parts. -/
def value (negative : Bool) (p : NumberParts) : Json :=
  if p.fraction.isEmpty && p.power.isNone then
    .int (if negative then -(digitsValue p.whole : ℤ) else digitsValue p.whole)
  else .real (Binary64.ofDecimal negative (digitsValue (p.whole ++ p.fraction)) p.exponent)

end NumberParts

/-- What follows a number in written text: nothing, a comma or a new line. -/
def Delimited (rest : List Char) : Prop := ∀ c ∈ rest.head?, c = ',' ∨ c = '\n'

theorem Delimited.stops {rest : List Char} (h : Delimited rest) : Stops rest := by
  intro c hc
  obtain rfl | rfl := h c hc
  · rfl
  · rfl

theorem isDigit_of_mem_powerDigits {power : ℤ} {c : Char} (h : c ∈ powerDigits power) :
    isDigit c = true := by
  rw [powerDigits] at h
  split at h
  · obtain rfl | h := List.mem_cons.1 h
    · rfl
    · exact isDigit_of_mem_toDigits h
  · exact isDigit_of_mem_toDigits h

theorem digitsValue_powerDigits (power : ℤ) : digitsValue (powerDigits power) = power.natAbs := by
  rw [powerDigits, digitsValue_eq]
  split
  · rw [Nat.ofDigitChars_cons]
    exact Nat.ofDigitChars_ten_toDigits
  · exact Nat.ofDigitChars_ten_toDigits

theorem powerDigits_ne_nil (power : ℤ) : powerDigits power ≠ [] := by
  rw [powerDigits]
  split
  · exact List.cons_ne_nil _ _
  · exact Nat.toDigits_ne_nil

section Parts

variable {fraction : List Char} {power : Option ℤ} {rest : List Char} (hrest : Delimited rest)

include hrest

theorem stops_powerText : Stops (powerText power ++ rest) := by
  cases power with
  | none => exact hrest.stops
  | some power =>
    rintro c ⟨⟩
    rfl

theorem stops_fractionText : Stops (fractionText fraction ++ (powerText power ++ rest)) := by
  cases fraction with
  | nil => exact stops_powerText hrest
  | cons d fraction =>
    rintro c ⟨⟩
    rfl

theorem fractionDigits_text (hfraction : ∀ c ∈ fraction, isDigit c = true) :
    fractionDigits (fractionText fraction ++ (powerText power ++ rest)) = fraction := by
  cases fraction with
  | nil =>
    obtain _ | power := power
    · obtain _ | ⟨c, rest⟩ := rest
      · rfl
      · obtain rfl | rfl := hrest c rfl
        · rfl
        · rfl
    · rfl
  | cons d fraction => exact takeWhile_isDigit hfraction (stops_powerText hrest)

theorem exponentPart_text :
    exponentPart (powerText power ++ rest) = power.map fun value =>
      (value, (powerText power).length) := by
  obtain _ | power := power
  · obtain _ | ⟨c, rest⟩ := rest
    · rfl
    · obtain rfl | rfl := hrest c rfl
      · rfl
      · rfl
  · have hdigits : (powerDigits power ++ rest).takeWhile isDigit = powerDigits power :=
      takeWhile_isDigit (fun c => isDigit_of_mem_powerDigits) hrest.stops
    have hne : (powerDigits power).isEmpty = false :=
      List.isEmpty_eq_false_iff.2 (powerDigits_ne_nil power)
    have hminus : ∀ cs : List Char, exponentPart ('e' :: '-' :: cs) =
        if (cs.takeWhile isDigit).isEmpty then none
        else some (-(digitsValue (cs.takeWhile isDigit) : ℤ),
          1 + 1 + (cs.takeWhile isDigit).length) := fun _ => rfl
    have hplus : ∀ cs : List Char, exponentPart ('e' :: '+' :: cs) =
        if (cs.takeWhile isDigit).isEmpty then none
        else some ((digitsValue (cs.takeWhile isDigit) : ℤ),
          1 + 1 + (cs.takeWhile isDigit).length) := fun _ => rfl
    rw [powerText, List.cons_append, List.cons_append, Option.map_some, List.length_cons,
      List.length_cons]
    obtain hneg | hpos := lt_or_ge power 0
    · rw [if_pos hneg, hminus, hdigits, hne, if_neg Bool.false_ne_true, digitsValue_powerDigits]
      congr 2
      · omega
      · omega
    · rw [if_neg (not_lt.2 hpos), hplus, hdigits, hne, if_neg Bool.false_ne_true,
        digitsValue_powerDigits]
      congr 2
      · omega
      · omega

end Parts

theorem wholeDigits_text {whole rest : List Char} (hwhole : ∀ c ∈ whole, isDigit c = true)
    (hlead : whole = ['0'] ∨ ∃ c more, whole = c :: more ∧ c ≠ '0') (hrest : Stops rest) :
    wholeDigits (whole ++ rest) = whole := by
  obtain rfl | ⟨c, more, rfl, hc⟩ := hlead
  · rfl
  · rw [List.cons_append, wholeDigits, if_neg hc, ← List.cons_append]
    exact takeWhile_isDigit hwhole hrest

/-- The parts of a number are read whatever follows. -/
theorem number_text {p : NumberParts} (hp : p.Proper)
    (hlength : p.fraction.isEmpty = true → p.power.isNone = true → p.whole.length ≤ maxDigits)
    {rest : List Char} (hrest : Delimited rest) (start pos : ℕ) (negative : Bool) :
    ∃ next, number start negative ⟨pos, p.text ++ rest⟩ = .ok (p.value negative, ⟨next, rest⟩) := by
  have hwhole : wholeDigits (p.text ++ rest) = p.whole := by
    rw [NumberParts.text, List.append_assoc, List.append_assoc]
    exact wholeDigits_text hp.whole hp.lead (stops_fractionText hrest)
  have hne : p.whole.isEmpty = false := by
    obtain hlead | ⟨c, more, hlead, -⟩ := hp.lead
    · rw [hlead]
      rfl
    · rw [hlead]
      rfl
  have hafter : (p.text ++ rest).drop p.whole.length =
      fractionText p.fraction ++ (powerText p.power ++ rest) := by
    rw [NumberParts.text, List.append_assoc, List.append_assoc, List.drop_left]
  have hpointed : (if p.fraction.isEmpty then 0 else p.fraction.length + 1) =
      (fractionText p.fraction).length := by
    rw [fractionText]
    split
    · rfl
    · rfl
  have hpowered :
      ((p.power.map fun value => (value, (powerText p.power).length)).map (·.2)).getD 0 =
      (powerText p.power).length := by
    cases p.power with
    | none => rfl
    | some power => rfl
  have hexponent :
      ((p.power.map fun value => (value, (powerText p.power).length)).map (·.1)).getD 0 =
      p.power.getD 0 := by
    cases p.power with
    | none => rfl
    | some power => rfl
  simp only [number, hwhole, hne, hafter, fractionDigits_text hrest hp.fraction, hpointed,
    List.drop_left, exponentPart_text hrest, hpowered, hexponent, Option.isNone_map,
    Bool.false_eq_true, if_false, NumberParts.value, NumberParts.exponent]
  split
  · next hint =>
    obtain ⟨hfraction, hpower⟩ := Bool.and_eq_true_iff.1 hint
    rw [if_neg (Nat.not_lt.2 (hlength hfraction hpower))]
    exact ⟨_, rfl⟩
  · exact ⟨_, rfl⟩

/-! ## Signs -/

/-- A text with the sign of a number. -/
def signed (negative : Bool) (text : List Char) : List Char :=
  if negative then '-' :: text else text

theorem keyword_eq_none {name : String} {first : Char} {others : List Char}
    (hname : name.toList = first :: others) (value : Json) {c : Char} (hc : c ≠ first) (pos : ℕ)
    (cs : List Char) :
    keyword name value ⟨pos, c :: cs⟩ = none := by
  rw [keyword, hname, List.isPrefixOf, beq_eq_false_iff_ne.2 (Ne.symm hc), Bool.false_and,
    if_neg Bool.false_ne_true]

theorem ne_of_isDigit {c d : Char} (hc : isDigit c = true) (hd : isDigit d = false) : c ≠ d := by
  rintro rfl
  exact absurd (hc.symm.trans hd) (by decide)

theorem scalar_digit {c : Char} (hc : isDigit c = true) (pos : ℕ) (cs : List Char) :
    scalar ⟨pos, c :: cs⟩ = number pos false ⟨pos, c :: cs⟩ := by
  have hne : ∀ {d : Char}, isDigit d = false → c ≠ d := ne_of_isDigit hc
  simp only [scalar, List.findSome?_cons, List.findSome?_nil,
    keyword_eq_none (show "null".toList = 'n' :: _ from rfl) _ (hne rfl),
    keyword_eq_none (show "true".toList = 't' :: _ from rfl) _ (hne rfl),
    keyword_eq_none (show "false".toList = 'f' :: _ from rfl) _ (hne rfl),
    keyword_eq_none (show "NaN".toList = 'N' :: _ from rfl) _ (hne rfl),
    keyword_eq_none (show "Infinity".toList = 'I' :: _ from rfl) _ (hne rfl),
    keyword_eq_none (show "-Infinity".toList = '-' :: _ from rfl) _ (hne rfl)]
  split
  · next heq =>
    cases heq
    exact absurd rfl (hne rfl)
  · rfl

theorem scalar_minus {c : Char} (hc : isDigit c = true) (pos : ℕ) (cs : List Char) :
    scalar ⟨pos, '-' :: c :: cs⟩ = number pos true ⟨pos + 1, c :: cs⟩ := by
  have hinfinity : keyword "-Infinity" (.real (.infinite true)) ⟨pos, '-' :: c :: cs⟩ = none := by
    have hname : "-Infinity".toList = ['-', 'I', 'n', 'f', 'i', 'n', 'i', 't', 'y'] := by decide
    have hsecond : ('I' == c) = false := beq_eq_false_iff_ne.2 (Ne.symm (ne_of_isDigit hc rfl))
    rw [keyword, hname, List.isPrefixOf, List.isPrefixOf, hsecond, Bool.false_and, Bool.and_false,
      if_neg Bool.false_ne_true]
  simp only [scalar, List.findSome?_cons, List.findSome?_nil, hinfinity,
    keyword_eq_none (show "null".toList = 'n' :: _ from rfl) _ (show '-' ≠ 'n' by decide),
    keyword_eq_none (show "true".toList = 't' :: _ from rfl) _ (show '-' ≠ 't' by decide),
    keyword_eq_none (show "false".toList = 'f' :: _ from rfl) _ (show '-' ≠ 'f' by decide),
    keyword_eq_none (show "NaN".toList = 'N' :: _ from rfl) _ (show '-' ≠ 'N' by decide),
    keyword_eq_none (show "Infinity".toList = 'I' :: _ from rfl) _ (show '-' ≠ 'I' by decide)]

/-- The character may start a value that is neither a string, a list nor an object. -/
def StartsScalar (c : Char) : Prop := isDigit c = true ∨ c ∈ ['-', 'n', 't', 'f', 'N', 'I']

/-- The text is read as the value, whatever follows. -/
structure ReadsScalar (text : List Char) (v : Json) : Prop where
  starts : ∃ c cs, text = c :: cs ∧ StartsScalar c
  reads : ∀ {rest : List Char}, Delimited rest →
    ∀ pos, ∃ next, scalar ⟨pos, text ++ rest⟩ = .ok (v, ⟨next, rest⟩)

/-- A number with its sign is read. -/
theorem readsScalar_signed {p : NumberParts} (hp : p.Proper)
    (hlength : p.fraction.isEmpty = true → p.power.isNone = true → p.whole.length ≤ maxDigits)
    (negative : Bool) :
    ReadsScalar (signed negative p.text) (p.value negative) := by
  obtain ⟨c, cs, htext, hc⟩ : ∃ c cs, p.text = c :: cs ∧ isDigit c = true := by
    have hwhole := hp.whole
    rw [NumberParts.text]
    obtain hlead | ⟨c, more, hlead, -⟩ := hp.lead
    · exact ⟨'0', _, by rw [hlead]; rfl, rfl⟩
    · rw [hlead] at hwhole ⊢
      exact ⟨c, _, rfl, hwhole c List.mem_cons_self⟩
  cases negative with
  | true =>
    refine ⟨⟨'-', p.text, rfl, .inr List.mem_cons_self⟩, fun {rest} hrest pos => ?_⟩
    obtain ⟨next, hnext⟩ := number_text hp hlength hrest pos (pos + 1) true
    refine ⟨next, ?_⟩
    rw [← hnext, signed, if_pos rfl, htext]
    exact scalar_minus hc pos (cs ++ rest)
  | false =>
    refine ⟨⟨c, cs, htext, .inl hc⟩, fun {rest} hrest pos => ?_⟩
    obtain ⟨next, hnext⟩ := number_text hp hlength hrest pos pos false
    refine ⟨next, ?_⟩
    rw [← hnext, signed, if_neg Bool.false_ne_true, htext]
    exact scalar_digit hc pos (cs ++ rest)

/-! ## Whole numbers -/

theorem length_toDigits_le {n k : ℕ} (hk : 0 < k) (hn : n < Nat.pow 10 k) :
    (Nat.toDigits 10 n).length ≤ k :=
  (Nat.length_toDigits_le_iff (by decide) hk).2 hn

theorem proper_toDigits (n : ℕ) : (⟨Nat.toDigits 10 n, [], none⟩ : NumberParts).Proper where
  whole := fun _ => isDigit_of_mem_toDigits
  lead := by
    obtain rfl | hn := Nat.eq_zero_or_pos n
    · exact .inl rfl
    · exact .inr (exists_lead hn)
  fraction := fun _ h => absurd h List.not_mem_nil

/-- A whole number that is not too long is read back. -/
theorem readsScalar_int {n : ℤ} (hn : n.natAbs < Nat.pow 10 maxDigits) :
    ReadsScalar (intText n) (.int n) := by
  have hreads :=
    readsScalar_signed (proper_toDigits n.natAbs) (fun _ _ => length_toDigits_le (by decide) hn)
    (decide (n < 0))
  have htext : (⟨Nat.toDigits 10 n.natAbs, [], none⟩ : NumberParts).text =
      Nat.toDigits 10 n.natAbs := List.append_nil _
  have hsigned : signed (decide (n < 0)) (Nat.toDigits 10 n.natAbs) = intText n := by
    simp only [signed, intText, decide_eq_true_eq]
  have hvalue :
      (⟨Nat.toDigits 10 n.natAbs, [], none⟩ : NumberParts).value (decide (n < 0)) = .int n := by
    change Json.int
      (if decide (n < 0) then -(digitsValue (Nat.toDigits 10 n.natAbs) : ℤ) else _) = _
    rw [digitsValue_eq, Nat.ofDigitChars_ten_toDigits]
    congr 1
    split
    · next hsign =>
      have := of_decide_eq_true hsign
      omega
    · next hsign =>
      have := mt decide_eq_true hsign
      omega
  rwa [htext, hsigned, hvalue] at hreads

/-! ## Doubles -/

/-- The text has proper parts with the value of a decimal. -/
structure PartsOf (d : Binary64.Decimal) (text : List Char) (p : NumberParts) : Prop where
  proper : p.Proper
  text_eq : p.text = text
  real : (p.fraction.isEmpty && p.power.isNone) = false
  value : (digitsValue (p.whole ++ p.fraction) : ℚ) * 10 ^ p.exponent = d.digits * 10 ^ d.exponent

theorem isDigit_of_mem_zeros {count : ℕ} {c : Char} (h : c ∈ List.replicate count '0') :
    isDigit c = true := by
  rw [List.eq_of_mem_replicate h]
  rfl

section Forms

variable (d : Binary64.Decimal)

/-- The digits stand behind the point, with zeros in between. -/
theorem partsOf_behind (zeros : ℕ)
    (hpoint : (Nat.toDigits 10 d.digits).length + d.exponent = -(zeros : ℤ)) :
    PartsOf d ('0' :: '.' :: (List.replicate zeros '0' ++ Nat.toDigits 10 d.digits))
      ⟨['0'], List.replicate zeros '0' ++ Nat.toDigits 10 d.digits, none⟩ := by
  have hne : (List.replicate zeros '0' ++ Nat.toDigits 10 d.digits).isEmpty = false := by
    simp [Nat.toDigits_ne_nil]
  refine ⟨⟨List.forall_mem_singleton.2 rfl, .inl rfl, List.forall_mem_append.2 ?_⟩, ?_, ?_, ?_⟩
  · exact ⟨fun _ => isDigit_of_mem_zeros, fun _ => isDigit_of_mem_toDigits⟩
  · simp [NumberParts.text, fractionText, powerText, hne]
  · rw [hne]
    rfl
  · have hexponent : (⟨['0'], List.replicate zeros '0' ++ Nat.toDigits 10 d.digits,
      none⟩ : NumberParts).exponent =
        d.exponent := by
      simp [NumberParts.exponent]
      omega
    rw [hexponent, digitsValue_eq]
    simp [Nat.ofDigitChars_append, Nat.ofDigitChars_cons, Nat.ofDigitChars_replicate_zero]

/-- The point stands between the digits. -/
theorem partsOf_between (hdigits : 0 < d.digits) (before : ℕ) (hbefore : 0 < before)
    (hexponent : d.exponent < 0)
    (hpoint : (Nat.toDigits 10 d.digits).length + d.exponent = before) :
    PartsOf d ((Nat.toDigits 10 d.digits).take before ++ '.' ::
      (Nat.toDigits 10 d.digits).drop before)
      ⟨(Nat.toDigits 10 d.digits).take before, (Nat.toDigits 10 d.digits).drop before, none⟩ := by
  have hne : ((Nat.toDigits 10 d.digits).drop before).isEmpty = false := by
    rw [List.isEmpty_eq_false_iff, Ne, List.drop_eq_nil_iff]
    omega
  obtain ⟨c, more, hlead, hc⟩ := exists_lead hdigits
  obtain ⟨before, rfl⟩ := Nat.exists_eq_succ_of_ne_zero hbefore.ne'
  refine ⟨⟨?_, .inr ⟨c, more.take before, ?_, hc⟩, ?_⟩, ?_, ?_, ?_⟩
  · exact fun _ h => isDigit_of_mem_toDigits (List.mem_of_mem_take h)
  · rw [hlead]
    rfl
  · exact fun _ h => isDigit_of_mem_toDigits (List.mem_of_mem_drop h)
  · simp [NumberParts.text, fractionText, powerText, hne]
  · rw [hne]
    rfl
  · have hexponent : (⟨(Nat.toDigits 10 d.digits).take (before + 1),
      (Nat.toDigits 10 d.digits).drop (before + 1),
        none⟩ : NumberParts).exponent = d.exponent := by
      simp [NumberParts.exponent]
      omega
    rw [hexponent, List.take_append_drop, digitsValue_eq, Nat.ofDigitChars_ten_toDigits]

/-- Zeros stand between the digits and the point. -/
theorem partsOf_before (hdigits : 0 < d.digits) (zeros : ℕ) (hexponent : d.exponent = zeros) :
    PartsOf d (Nat.toDigits 10 d.digits ++ List.replicate zeros '0' ++ ['.', '0'])
      ⟨Nat.toDigits 10 d.digits ++ List.replicate zeros '0', ['0'], none⟩ := by
  obtain ⟨c, more, hlead, hc⟩ := exists_lead hdigits
  refine ⟨⟨List.forall_mem_append.2 ?_, .inr ⟨c, more ++ List.replicate zeros '0', ?_, hc⟩,
    List.forall_mem_singleton.2 rfl⟩, ?_, rfl, ?_⟩
  · exact ⟨fun _ => isDigit_of_mem_toDigits, fun _ => isDigit_of_mem_zeros⟩
  · rw [hlead]
    rfl
  · simp [NumberParts.text, fractionText, powerText]
  · have hvalue : digitsValue (Nat.toDigits 10 d.digits ++ List.replicate zeros '0' ++ ['0']) =
        10 * (10 ^ zeros * d.digits) := by
      simp [digitsValue_eq, Nat.ofDigitChars_append, Nat.ofDigitChars_cons,
        Nat.ofDigitChars_replicate_zero]
    have hpower : (⟨Nat.toDigits 10 d.digits ++ List.replicate zeros '0', ['0'],
      none⟩ : NumberParts).exponent =
        -1 := rfl
    rw [hvalue, hpower, hexponent, zpow_natCast, zpow_neg_one]
    push_cast
    field_simp

/-- One digit stands before the point, and a power of ten follows. -/
theorem partsOf_power (c : Char) (more : List Char) (hc : c ≠ '0')
    (hlead : Nat.toDigits 10 d.digits = c :: more) :
    PartsOf d ([c] ++ fractionText more ++ powerText (some (more.length + d.exponent)))
      ⟨[c], more, some (more.length + d.exponent)⟩ := by
  have hdigits : ∀ x ∈ c :: more, isDigit x = true :=
    fun x hx => isDigit_of_mem_toDigits (hlead.symm ▸ hx)
  obtain ⟨hfirst, hmore⟩ := List.forall_mem_cons.1 hdigits
  refine ⟨⟨List.forall_mem_singleton.2 hfirst, .inr ⟨c, [], rfl, hc⟩, hmore⟩, ?_, ?_, ?_⟩
  · exact (List.append_assoc _ _ _).symm
  · exact Bool.and_false _
  · have hexponent :
        (⟨[c], more, some (more.length + d.exponent)⟩ : NumberParts).exponent = d.exponent := by
      simp [NumberParts.exponent]
    rw [hexponent, List.singleton_append, ← hlead, digitsValue_eq, Nat.ofDigitChars_ten_toDigits]

end Forms

/-- The text of a decimal has proper parts in each of its four forms. -/
theorem exists_parts_toText {d : Binary64.Decimal} (hdigits : 0 < d.digits) :
    ∃ p, PartsOf d d.toText p := by
  rw [Binary64.Decimal.toText]
  obtain ⟨c, more, hlead, hc⟩ := exists_lead hdigits
  simp only [Bool.and_eq_true, decide_eq_true_eq]
  split
  · next hpositional =>
    obtain hsmall | hlarge := le_or_gt ((Nat.toDigits 10 d.digits).length + d.exponent) 0
    · rw [if_pos hsmall]
      exact ⟨_, partsOf_behind d _ (by omega)⟩
    · rw [if_neg (not_le.2 hlarge)]
      split
      · next hexponent => exact ⟨_, partsOf_between d hdigits _ (by omega) hexponent (by omega)⟩
      · next hexponent => exact ⟨_, partsOf_before d hdigits _ (by omega)⟩
  · have hpower : ((Nat.toDigits 10 d.digits).length : ℤ) + d.exponent - 1 =
        more.length + d.exponent := by
      rw [hlead, List.length_cons]
      push_cast
      ring
    have hparts := partsOf_power d c more hc hlead
    rw [hpower, hlead]
    cases more with
    | nil => exact ⟨_, hparts⟩
    | cons next more => exact ⟨_, hparts⟩

/-- The text of a positive double has proper parts that are read as the double. -/
theorem exists_parts_finite {negative : Bool} {mantissa : ℕ} {exponent : ℤ}
    (hvalid : (Binary64.finite negative mantissa exponent).Valid) (hmantissa : 0 < mantissa) :
    ∃ p : NumberParts, p.Proper ∧ p.text = (Binary64.shortest mantissa exponent).toText ∧
      (p.fraction.isEmpty && p.power.isNone) = false ∧
      p.value negative = .real (.finite negative mantissa exponent) := by
  obtain ⟨hdigits, hreads⟩ := Binary64.readsAs_shortest hvalid hmantissa
  obtain ⟨p, hp⟩ := exists_parts_toText hdigits
  have hpositive : 0 < digitsValue (p.whole ++ p.fraction) := by
    have hvalue := hp.value
    by_contra hzero
    rw [Nat.eq_zero_of_not_pos hzero, Nat.cast_zero, zero_mul] at hvalue
    exact absurd hvalue (by positivity)
  have hreal : Binary64.ofDecimal negative (digitsValue (p.whole ++ p.fraction)) p.exponent =
      .finite negative mantissa exponent :=
    Binary64.ofDecimal_of_readsAs hpositive hvalid hmantissa (hp.value ▸ hreads)
  refine ⟨p, hp.proper, hp.text_eq, hp.real, ?_⟩
  rw [NumberParts.value, hp.real, if_neg Bool.false_ne_true, hreal]

/-- A double is read back. -/
theorem readsScalar_real {x : Binary64} (hvalid : x.Valid) :
    ReadsScalar (x.toText jsonNames) (.real x) := by
  cases x with
  | nan => exact ⟨⟨'N', _, rfl, .inr (by decide)⟩, fun _ _ => ⟨_, rfl⟩⟩
  | infinite negative =>
    cases negative with
    | true => exact ⟨⟨'-', _, rfl, .inr (by decide)⟩, fun _ _ => ⟨_, rfl⟩⟩
    | false => exact ⟨⟨'I', _, rfl, .inr (by decide)⟩, fun _ _ => ⟨_, rfl⟩⟩
  | finite negative mantissa exponent =>
    obtain ⟨p, hproper, htext, hreal, hvalue⟩ : ∃ p : NumberParts, p.Proper ∧
        p.text =
          (if mantissa = 0 then ['0', '.', '0'] else (Binary64.shortest mantissa exponent).toText) ∧
        (p.fraction.isEmpty && p.power.isNone) = false ∧
        p.value negative = .real (.finite negative mantissa exponent) := by
      split
      · next hzero =>
        subst hzero
        have hexponent : exponent = Binary64.minExponent := hvalid.2.2.2.resolve_left (by decide)
        subst hexponent
        exact ⟨⟨['0'], ['0'], none⟩,
          ⟨List.forall_mem_singleton.2 rfl, .inl rfl, List.forall_mem_singleton.2 rfl⟩,
          rfl, rfl, rfl⟩
      · next hne => exact exists_parts_finite hvalid (Nat.pos_of_ne_zero hne)
    have hlength : p.fraction.isEmpty = true → p.power.isNone = true →
        p.whole.length ≤ maxDigits := by
      intro hfraction hpower
      exact absurd hreal (by simp [hfraction, hpower])
    rw [← hvalue, Binary64.toText, ← htext]
    exact readsScalar_signed hproper hlength negative

end DartRecords.Json.Parser
