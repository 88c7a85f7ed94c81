import DartRecords.Json.Display
import Mathlib.Data.List.Induction

/-!
# Lists of texts in quotes

The display text of a list of texts can be taken off the end of any text in one way only, although
the texts in it may hold quotes, brackets and commas of their own (`append_listText_inj`).

The argument runs from right to left.  The last item ends with a quote, and in front of that it has
this quote only behind a backslash (`escaped_of_quoteBody`), whereas the quote that opens it stands
behind a bracket or a blank.  So the opening quote is the first one, from the right, that has no
backslash before it (`append_quoted_inj`).  What is left is the list without its last item, up to a
comma.  Between the quotes, the text is found from left to right, by its first character
(`firstQuoted_quoteChar`).
-/

namespace DartRecords.Text

/-! ## Hexadecimal numbers -/

theorem hexNumber?_append (cs : List Char) (c : Char) :
    hexNumber? (cs ++ [c]) = (hexNumber? cs).bind fun n => (hexValue? c).map (16 * n + ·) := by
  rw [hexNumber?, List.foldl_append]
  rfl

theorem hexValue?_digitChar : ∀ d < 16, hexValue? (Nat.digitChar d) = some d := by decide

theorem hexNumber?_toDigits (n : Nat) : hexNumber? (Nat.toDigits 16 n) = some n := by
  induction n using Nat.strongRecOn with
  | ind n ih =>
    rw [Nat.toDigits_eq_if (by decide)]
    split
    · next hsmall =>
      rw [← List.nil_append [_], hexNumber?_append, hexValue?_digitChar _ hsmall]
      exact congrArg some (Nat.zero_add n)
    · next hlarge =>
      rw [hexNumber?_append, ih (n / 16) (by omega),
        hexValue?_digitChar _ (Nat.mod_lt n (by decide))]
      exact congrArg some (Nat.div_add_mod n 16)

theorem hexNumber?_zeros (k : Nat) (cs : List Char) :
    hexNumber? (List.replicate k '0' ++ cs) = hexNumber? cs := by
  induction k with
  | zero => rfl
  | succ k ih => exact ih

theorem hexNumber?_hexPadded (width n : Nat) : hexNumber? (hexPadded width n) = some n := by
  rw [hexPadded, hexNumber?_zeros, hexNumber?_toDigits]

theorem length_hexPadded {width n : Nat} (hwidth : 0 < width) (h : n < Nat.pow 16 width) :
    (hexPadded width n).length = width := by
  have hdigits := (Nat.length_toDigits_le_iff (b := 16) (n := n) (by decide) hwidth).2 h
  rw [hexPadded, List.length_append, List.length_replicate]
  omega

theorem isHexDigit_of_mem_toDigits {n : Nat} {c : Char} (h : c ∈ Nat.toDigits 16 n) :
    ∃ d < 16, c = Nat.digitChar d := by
  induction n using Nat.strongRecOn with
  | ind n ih =>
    rw [Nat.toDigits_eq_if (by decide)] at h
    split at h
    · next hsmall => exact ⟨n, hsmall, List.mem_singleton.1 h⟩
    · next hlarge =>
      rw [List.mem_append, List.mem_singleton] at h
      obtain h | h := h
      · exact ih (n / 16) (by omega) h
      · exact ⟨n % 16, Nat.mod_lt n (by decide), h⟩

/-- The quotes that a text may stand between. -/
def IsQuote (quote : Char) : Prop := quote = singleQuote ∨ quote = '"'

theorem IsQuote.not_mem_hexPadded {quote : Char} (h : IsQuote quote) (width n : Nat) :
    quote ∉ hexPadded width n := by
  have hdigits : ∀ d < 16, Nat.digitChar d ≠ singleQuote ∧ Nat.digitChar d ≠ '"' := by decide
  intro hmem
  obtain hmem | hmem := List.mem_append.1 hmem
  · obtain rfl | rfl := h
    · exact absurd (List.eq_of_mem_replicate hmem) (by decide)
    · exact absurd (List.eq_of_mem_replicate hmem) (by decide)
  · obtain ⟨d, hd, rfl⟩ := isHexDigit_of_mem_toDigits hmem
    obtain hsingle | hdouble := h
    · exact (hdigits d hd).1 hsingle
    · exact (hdigits d hd).2 hdouble

/-! ## One character in quotes -/

/-- The escapes of a character by its code point: the letter after the backslash, and the number of
digits. -/
def codeEscapes : List (Char × Nat) := [('x', 2), ('u', 4), ('U', 8)]

/-- The escapes of one letter, other than that of a backslash and of a quote. -/
def blankEscapes : List (Char × Char) := [('t', '\t'), ('n', '\n'), ('r', '\r')]

/-- A character in quotes is written as it is, behind a backslash, by a letter or by its code
point. -/
theorem quoteChar_cases {quote : Char} (c : Char) :
    (c ≠ quote ∧ c ≠ '\\' ∧ quoteChar quote c = [c]) ∨
    ((c = quote ∨ c = '\\') ∧ quoteChar quote c = ['\\', c]) ∨
    (∃ letter, (letter, c) ∈ blankEscapes ∧ quoteChar quote c = ['\\', letter]) ∨
    (∃ letter width, (letter, width) ∈ codeEscapes ∧ c.toNat < Nat.pow 16 width ∧
      quoteChar quote c = '\\' :: letter :: hexPadded width c.toNat) := by
  have hsize : c.toNat < Nat.pow 16 8 := by
    have hvalid : c.toNat.isValidChar := c.valid
    rw [Nat.isValidChar] at hvalid
    change c.toNat < 4294967296
    omega
  generalize hwritten : quoteChar quote c = text
  rw [quoteChar] at hwritten
  split at hwritten
  · next hescaped => exact .inr (.inl ⟨by simpa using hescaped, hwritten.symm⟩)
  next hescaped =>
  split at hwritten
  · next ht => exact .inr (.inr (.inl ⟨'t', by simp [blankEscapes, ht], hwritten.symm⟩))
  split at hwritten
  · next hn => exact .inr (.inr (.inl ⟨'n', by simp [blankEscapes, hn], hwritten.symm⟩))
  split at hwritten
  · next hr => exact .inr (.inr (.inl ⟨'r', by simp [blankEscapes, hr], hwritten.symm⟩))
  split at hwritten
  · exact .inl ⟨fun h => hescaped (by simp [h]), fun h => hescaped (by simp [h]), hwritten.symm⟩
  split at hwritten
  · next hbyte =>
    exact .inr (.inr (.inr ⟨'x', 2, by decide, Nat.lt_succ_of_le hbyte, hwritten.symm⟩))
  split at hwritten
  · next hunit =>
    exact .inr (.inr (.inr ⟨'u', 4, by decide, Nat.lt_succ_of_le hunit, hwritten.symm⟩))
  · exact .inr (.inr (.inr ⟨'U', 8, by decide, hsize, hwritten.symm⟩))

/-- The character that a text between quotes starts with. -/
def firstQuoted : List Char → Option Char
  | [] => none
  | ['\\'] => none
  | '\\' :: letter :: rest =>
    match codeEscapes.lookup letter with
    | some width => (hexNumber? (rest.take width)).map Char.ofNat
    | none => some ((blankEscapes.lookup letter).getD letter)
  | c :: _ => some c

theorem firstQuoted_of_ne {c : Char} (h : c ≠ '\\') (rest : List Char) :
    firstQuoted (c :: rest) = some c := by
  rw [firstQuoted]
  · rintro ⟨⟩
    exact absurd rfl h
  · rintro letter more ⟨⟩
    exact absurd rfl h

theorem firstQuoted_quoteChar {quote : Char} (hquote : IsQuote quote) (c : Char)
    (rest : List Char) :
    firstQuoted (quoteChar quote c ++ rest) = some c := by
  obtain ⟨-, hc, hwritten⟩ | ⟨hc, hwritten⟩ | ⟨letter, hletter, hwritten⟩ | ⟨letter, width, hletter,
    hsize, hwritten⟩ :=
    @quoteChar_cases quote c
  · rw [hwritten]
    exact firstQuoted_of_ne hc rest
  · have hplain : codeEscapes.lookup c = none ∧ blankEscapes.lookup c = none := by
      obtain rfl | rfl := hc
      · obtain rfl | rfl := hquote
        · decide
        · decide
      · decide
    rw [hwritten, List.cons_append, List.cons_append, firstQuoted, hplain.1, hplain.2]
    rfl
  · have hletters : ∀ p ∈ blankEscapes, codeEscapes.lookup p.1 = none ∧
        blankEscapes.lookup p.1 = some p.2 := by
      decide
    obtain ⟨hcode, hblank⟩ := hletters _ hletter
    rw [hwritten, List.cons_append, List.cons_append, firstQuoted, hcode, hblank]
    rfl
  · have hletters : ∀ p ∈ codeEscapes, codeEscapes.lookup p.1 = some p.2 ∧ 0 < p.2 := by decide
    obtain ⟨hcode, hwidth⟩ := hletters _ hletter
    have htake : (hexPadded width c.toNat ++ rest).take width = hexPadded width c.toNat :=
      List.take_left' (length_hexPadded hwidth hsize)
    rw [hwritten, List.cons_append, List.cons_append, firstQuoted, hcode]
    simp only [htake, hexNumber?_hexPadded, Option.map_some, Char.ofNat_toNat]

/-! ## One text in quotes -/

/-- The quotes that a text stands between. -/
def quoteOf (cs : List Char) : Char :=
  if cs.contains singleQuote && !cs.contains '"' then '"' else singleQuote

theorem isQuote_quoteOf (cs : List Char) : IsQuote (quoteOf cs) := by
  rw [quoteOf]
  split
  · exact .inr rfl
  · exact .inl rfl

theorem quoted_eq (cs : List Char) :
    quoted cs = quoteOf cs :: cs.flatMap (quoteChar (quoteOf cs)) ++ [quoteOf cs] := rfl

theorem flatMap_quoteChar_inj {quote : Char} (hquote : IsQuote quote) {cs ds : List Char}
    (h : cs.flatMap (quoteChar quote) = ds.flatMap (quoteChar quote)) : cs = ds := by
  induction cs generalizing ds with
  | nil =>
    cases ds with
    | nil => rfl
    | cons d ds =>
      have hfirst := firstQuoted_quoteChar hquote d (ds.flatMap (quoteChar quote))
      rw [← List.flatMap_cons, ← h] at hfirst
      cases hfirst
  | cons c cs ih =>
    have hfirst := firstQuoted_quoteChar hquote c (cs.flatMap (quoteChar quote))
    rw [← List.flatMap_cons, h] at hfirst
    cases ds with
    | nil => cases hfirst
    | cons d ds =>
      rw [List.flatMap_cons, firstQuoted_quoteChar hquote] at hfirst
      cases hfirst
      rw [List.flatMap_cons, List.flatMap_cons, List.append_cancel_left_eq] at h
      rw [ih h]

/-- A quote in what is written for a character stands behind a backslash. -/
theorem escaped_of_quoteChar {quote c : Char} (hquote : IsQuote quote) {before after : List Char}
    (h : quoteChar quote c = before ++ quote :: after) : before = ['\\'] := by
  have hbackslash : quote ≠ '\\' := by
    obtain rfl | rfl := hquote
    · decide
    · decide
  -- A quote after a backslash and a letter would be one of the digits.
  have hpair : ∀ {letter : Char} {rest : List Char}, quote ∉ rest →
      '\\' :: letter :: rest = before ++ quote :: after → before = ['\\'] := by
    intro letter rest hrest heq
    obtain _ | ⟨first, _ | ⟨second, more⟩⟩ := before
    · cases heq
      exact absurd rfl hbackslash
    · cases heq
      rfl
    · cases heq
      exact absurd (by simp) hrest
  obtain ⟨hc, -, hwritten⟩ | ⟨-, hwritten⟩ | ⟨letter, -, hwritten⟩ | ⟨letter, width, -,
    -, hwritten⟩ :=
    @quoteChar_cases quote c
  · rw [hwritten] at h
    obtain _ | ⟨first, more⟩ := before
    · cases h
      exact absurd rfl hc
    · simp at h
  · exact hpair (List.not_mem_nil) (hwritten.symm.trans h)
  · exact hpair (List.not_mem_nil) (hwritten.symm.trans h)
  · exact hpair (hquote.not_mem_hexPadded width c.toNat) (hwritten.symm.trans h)

/-- Between the quotes, a quote stands behind a backslash. -/
theorem escaped_of_quoteBody {quote : Char} (hquote : IsQuote quote) {cs before after : List Char}
    (h : cs.flatMap (quoteChar quote) = before ++ quote :: after) :
    before.getLast? = some '\\' := by
  induction cs generalizing before with
  | nil => simp at h
  | cons c cs ih =>
    rw [List.flatMap_cons, List.append_eq_append_iff] at h
    obtain ⟨more, rfl, hrest⟩ | ⟨more, hchar, hrest⟩ := h
    · rw [List.getLast?_append, ih hrest, Option.some_or]
    · cases more with
      | nil =>
        have hnil := @ih [] hrest.symm
        cases hnil
      | cons d more =>
        cases hrest
        rw [escaped_of_quoteChar hquote hchar]
        rfl

/-- The quote that opens a text is not found again further to the right. -/
theorem eq_nil_of_opened_twice {quote : Char} (hquote : IsQuote quote)
    {before more cs after : List Char} (hlast : (before ++ more).getLast? ≠ some '\\')
    (h : quote :: cs.flatMap (quoteChar quote) = more ++ quote :: after) : more = [] := by
  cases more with
  | nil => rfl
  | cons d more =>
    have hescaped := escaped_of_quoteBody hquote (List.cons.inj h).2
    refine absurd ?_ hlast
    rw [List.getLast?_append, List.getLast?_cons, hescaped]
    rfl

/-- A text in quotes can be taken off the end in one way only, if no backslash stands before it. -/
theorem append_quoted_inj {before before' cs cs' : List Char}
    (hbefore : before.getLast? ≠ some '\\') (hbefore' : before'.getLast? ≠ some '\\')
    (h : before ++ quoted cs = before' ++ quoted cs') :
    before = before' ∧ cs = cs' := by
  rw [quoted_eq, quoted_eq, ← List.append_assoc, ← List.append_assoc] at h
  obtain ⟨hopened, hquotes⟩ := List.append_inj' h rfl
  have hquote : quoteOf cs' = quoteOf cs := (List.cons.inj hquotes).1.symm
  rw [hquote] at hopened
  have hsame : before = before' := by
    obtain ⟨more, rfl, hbody⟩ | ⟨more, rfl, hbody⟩ := List.append_eq_append_iff.1 hopened
    · rw [eq_nil_of_opened_twice (isQuote_quoteOf cs) hbefore' hbody, List.append_nil]
    · rw [eq_nil_of_opened_twice (isQuote_quoteOf cs) hbefore hbody, List.append_nil]
  rw [hsame, List.append_cancel_left_eq] at hopened
  exact ⟨hsame, flatMap_quoteChar_inj (isQuote_quoteOf cs) (List.cons.inj hopened).2⟩

end DartRecords.Text

namespace DartRecords.Json

/-! ## Lists of texts -/

/-- The display text of a list of texts. -/
def listText (texts : List String) : List Char := quoted (.arr (texts.map .str))

/-- The display text of a list whose last item is still to come. -/
def openedList (texts : List String) : List Char :=
  texts.foldl (fun opened text => opened ++ (Text.quoted text.toList ++ [',', ' '])) ['[']

theorem openedList_concat (texts : List String) (text : String) :
    openedList (texts ++ [text]) = openedList texts ++ (Text.quoted text.toList ++ [',', ' ']) := by
  rw [openedList, List.foldl_append]
  rfl

theorem quotedItems_concat (opened : List Char) (texts : List String) (text : String) :
    opened ++ quotedItems ((texts ++ [text]).map .str) =
      texts.foldl (fun opened text => opened ++ (Text.quoted text.toList ++ [',', ' '])) opened ++
        Text.quoted text.toList := by
  induction texts generalizing opened with
  | nil => rfl
  | cons first rest ih =>
    have hitems : quotedItems ((first :: rest ++ [text]).map .str) =
        Text.quoted first.toList ++ [',', ' '] ++ quotedItems ((rest ++ [text]).map .str) := by
      rw [List.cons_append, List.map_cons, quotedItems]
      · simp [quoted]
      · simp
    rw [hitems, List.foldl_cons, ← ih, List.append_assoc opened]

theorem listText_concat (texts : List String) (text : String) :
    listText (texts ++ [text]) = openedList texts ++ (Text.quoted text.toList ++ [']']) := by
  rw [listText, quoted, openedList, ← List.append_assoc, ← quotedItems_concat]
  rfl

theorem getLast?_append_openedList (before : List Char) (texts : List String) :
    (before ++ openedList texts).getLast? ≠ some '\\' := by
  cases texts using List.reverseRecOn with
  | nil => simp [openedList]
  | append_singleton texts text =>
    rw [openedList_concat]
    simp

/-- The last item can be taken off in one way only. -/
theorem append_lastItem_inj {before before' ending : List Char} {texts texts' : List String}
    {text text' : String} (h : before ++ (openedList texts ++ (Text.quoted text.toList ++ ending)) =
      before' ++ (openedList texts' ++ (Text.quoted text'.toList ++ ending))) :
    before ++ openedList texts = before' ++ openedList texts' ∧ text = text' := by
  simp only [← List.append_assoc] at h
  obtain ⟨hopened, htext⟩ := Text.append_quoted_inj (getLast?_append_openedList before texts)
    (getLast?_append_openedList before' texts') (List.append_cancel_right h)
  exact ⟨hopened, String.toList_inj.1 htext⟩

theorem append_openedList_nil_ne {before before' : List Char} {texts : List String}
    {text : String} :
    before ++ openedList [] ≠ before' ++ openedList (texts ++ [text]) := by
  intro h
  have hlast := congrArg List.getLast? h
  rw [openedList_concat, show openedList [] = ['['] from rfl] at hlast
  simp at hlast

theorem append_openedList_inj {before before' : List Char} {texts texts' : List String}
    (h : before ++ openedList texts = before' ++ openedList texts') :
    before = before' ∧ texts = texts' := by
  induction texts using List.reverseRecOn generalizing texts' with
  | nil =>
    cases texts' using List.reverseRecOn with
    | nil => exact ⟨List.append_cancel_right h, rfl⟩
    | append_singleton texts' text' => exact absurd h append_openedList_nil_ne
  | append_singleton texts text ih =>
    cases texts' using List.reverseRecOn with
    | nil => exact absurd h.symm append_openedList_nil_ne
    | append_singleton texts' text' =>
      rw [openedList_concat, openedList_concat] at h
      obtain ⟨hopened, rfl⟩ := append_lastItem_inj h
      obtain ⟨hbefore, rfl⟩ := ih hopened
      exact ⟨hbefore, rfl⟩

/-- A list that is not empty has a quote before its last bracket. -/
theorem append_listText_nil_ne {before before' : List Char} {texts : List String} {text : String} :
    before ++ listText [] ≠ before' ++ listText (texts ++ [text]) := by
  intro h
  rw [listText_concat, Text.quoted_eq] at h
  have hends : (before ++ ['[']) ++ [']'] =
      (before' ++ (openedList texts ++ (Text.quoteOf text.toList ::
      text.toList.flatMap (Text.quoteChar (Text.quoteOf text.toList)) ++
      [Text.quoteOf text.toList]))) ++ [']'] := by
    simpa [listText, quoted, quotedItems] using h
  have hlast := congrArg List.getLast? (List.append_cancel_right hends)
  have hquote : Text.quoteOf text.toList ≠ '[' := by
    obtain h | h := Text.isQuote_quoteOf text.toList
    · rw [h]
      decide
    · rw [h]
      decide
  simp only [← List.append_assoc, List.getLast?_concat, Option.some.injEq] at hlast
  exact hquote hlast.symm

/-- The display text of a list of texts can be taken off the end in one way only. -/
theorem append_listText_inj {before before' : List Char} {texts texts' : List String}
    (h : before ++ listText texts = before' ++ listText texts') :
    before = before' ∧ texts = texts' := by
  cases texts using List.reverseRecOn with
  | nil =>
    cases texts' using List.reverseRecOn with
    | nil => exact ⟨List.append_cancel_right h, rfl⟩
    | append_singleton texts' text' => exact absurd h append_listText_nil_ne
  | append_singleton texts text =>
    cases texts' using List.reverseRecOn with
    | nil => exact absurd h.symm append_listText_nil_ne
    | append_singleton texts' text' =>
      rw [listText_concat, listText_concat] at h
      obtain ⟨hopened, rfl⟩ := append_lastItem_inj h
      obtain ⟨hbefore, rfl⟩ := append_openedList_inj hopened
      exact ⟨hbefore, rfl⟩

end DartRecords.Json
