import DartRecords.Proofs.Returns
import DartRecords.Proofs.Words
import Mathlib.Data.List.Nodup

/-!
# Names in a case style

The names of variants are words with single underscores between them, in capitals for constants and
in small letters for the others.  Camel case keeps the words of such a name apart, since each
capital starts one (`lowerCamel_inj`, `upperCamel_inj`).  A name in small letters has the words that
stand between its underscores (`splitWords_lower`), so it is determined by them.  A name in capitals
is not: `FOO1BAR` has the words of `FOO1_BAR`.
-/

namespace DartRecords.Naming

/-! ## Words between underscores -/

/-- The text is a letter that letters and digits follow. -/
def isWordOf (letter : Char → Bool) : List Char → Bool
  | [] => false
  | c :: rest => letter c && rest.all fun d => letter d || d.isDigit

/-- The name consists of words with single underscores between them. -/
def isStyled (letter : Char → Bool) (name : List Char) : Bool :=
  (Text.splitAt '_' name).all (isWordOf letter)

/-- The text is the rest of a styled name, at the start of a word or inside of it. -/
def completes (letter : Char → Bool) : Bool → List Char → Bool
  | atStart, [] => !atStart
  | atStart, c :: rest =>
    if c = '_' then !atStart && completes letter true rest
    else (letter c || !atStart && c.isDigit) && completes letter false rest

theorem completes_cons (letter : Char → Bool) (atStart : Bool) (c : Char) (rest : List Char) :
    completes letter atStart (c :: rest) =
      if c = '_' then !atStart && completes letter true rest
      else (letter c || !atStart && c.isDigit) && completes letter false rest := rfl

/-- The text is a word, or only the rest of one. -/
def completesWord (letter : Char → Bool) (atStart : Bool) (part : List Char) : Bool :=
  if atStart then isWordOf letter part else part.all fun d => letter d || d.isDigit

theorem completesWord_cons (letter : Char → Bool) (atStart : Bool) (c : Char) (part : List Char) :
    completesWord letter atStart (c :: part) =
      ((letter c || !atStart && c.isDigit) && completesWord letter false part) := by
  cases atStart <;> simp [completesWord, isWordOf]

theorem splitAt_ne_nil (separator : Char) (text : List Char) :
    Text.splitAt separator text ≠ [] := by
  rw [splitAt_eq_splitOnP]
  exact List.splitOnP_ne_nil _ _

theorem completes_eq {letter : Char → Bool} {atStart : Bool} {name part : List Char}
    {parts : List (List Char)} (h : Text.splitAt '_' name = part :: parts) :
    completes letter atStart name =
      (completesWord letter atStart part && parts.all (isWordOf letter)) := by
  induction name generalizing atStart part parts with
  | nil =>
    cases h
    cases atStart <;> rfl
  | cons c rest ih =>
    obtain ⟨first, more, hrest⟩ := List.exists_cons_of_ne_nil (splitAt_ne_nil '_' rest)
    rw [Text.splitAt, hrest] at h
    rw [completes_cons]
    split
    · next hc =>
      rw [if_pos hc] at h
      cases h
      rw [ih hrest, List.all_cons]
      cases atStart <;> rfl
    · next hc =>
      rw [if_neg hc] at h
      cases h
      rw [ih hrest, completesWord_cons, Bool.and_assoc]

/-- A name is styled if it completes one that has not started. -/
theorem isStyled_eq_completes (letter : Char → Bool) (name : List Char) :
    isStyled letter name = completes letter true name := by
  obtain ⟨part, parts, h⟩ := List.exists_cons_of_ne_nil (splitAt_ne_nil '_' name)
  rw [completes_eq h, isStyled, h, List.all_cons]
  rfl

theorem forall_of_completes {letter : Char → Bool} {p : Char → Prop} (hunderscore : p '_')
    (hletter : ∀ c, (letter c || c.isDigit) = true → p c) {atStart : Bool} {name : List Char}
    (h : completes letter atStart name = true) : ∀ c ∈ name, p c := by
  induction name generalizing atStart with
  | nil => simp
  | cons c rest ih =>
    rw [completes_cons] at h
    split at h
    · next hc =>
      rw [Bool.and_eq_true] at h
      exact List.forall_mem_cons.2 ⟨hc ▸ hunderscore, ih h.2⟩
    · rw [Bool.and_eq_true, Bool.or_eq_true, Bool.and_eq_true] at h
      refine List.forall_mem_cons.2 ⟨hletter c ?_, ih h.2⟩
      exact Bool.or_eq_true_iff.2 (h.1.imp_right And.right)

/-- What holds of underscores, letters and digits holds of the characters of a styled name. -/
theorem forall_of_isStyled {letter : Char → Bool} {p : Char → Prop} (hunderscore : p '_')
    (hletter : ∀ c, (letter c || c.isDigit) = true → p c) {name : List Char}
    (h : isStyled letter name = true) : ∀ c ∈ name, p c :=
  forall_of_completes hunderscore hletter (isStyled_eq_completes letter name ▸ h)

theorem parts_eq_splitAt {name : List Char} (h : ∀ c ∈ name, isWordChar c = true) :
    parts name = Text.splitAt '_' name := by
  induction name with
  | nil => rfl
  | cons c rest ih =>
    have hseparator : isSeparator c = decide (c = '_') := by
      have hsame := @forall_isWordChar (fun c => isSeparator c == decide (c = '_')) (by decide) c
        (h c List.mem_cons_self)
      exact eq_of_beq hsame
    rw [parts, Text.splitAt, ih fun d hd => h d (List.mem_cons_of_mem c hd), hseparator]
    exact ite_congr (by simp) (fun _ => rfl) fun _ => rfl

theorem completes_start {letter : Char → Bool} {c : Char} (hc : letter c = true) (atStart : Bool)
    {rest : List Char} (h : completes letter atStart (c :: rest) = true) (hne : c ≠ '_') :
    completes letter true (c :: rest) = true := by
  rw [completes_cons, if_neg hne, Bool.and_eq_true] at h ⊢
  exact ⟨by rw [hc, Bool.true_or], h.2⟩

/-- Where humps are marked in a name, words end before a capital, so it stays styled if capitals
start words. -/
theorem completes_markHumps {letter : Char → Bool}
    (hupper : ∀ c, c.isUpper = true → letter c = true) {atStart : Bool} {name : List Char}
    (h : completes letter atStart name = true) :
    completes letter atStart (markHumps name) = true := by
  fun_induction markHumps name generalizing atStart with
  | case1 => exact h
  | case2 c => exact h
  | case3 c d rest hhump ih =>
    obtain ⟨hc, hd⟩ := Bool.and_eq_true_iff.1 hhump
    have hne {e : Char} (he : (isLowerOrDigit e || e.isUpper) = true) : e ≠ '_' := by
      rintro rfl
      exact absurd he (by decide)
    have hnec := hne (by rw [hc, Bool.true_or])
    have hned := hne (by rw [hd, Bool.or_true])
    rw [completes_cons, if_neg hnec, Bool.and_eq_true] at h ⊢
    exact ⟨h.1,
      by rw [completes_cons, if_pos rfl]; exact ih (completes_start (hupper d hd) false h.2 hned)⟩
  | case4 c d rest hhump ih =>
    rw [completes_cons] at h ⊢
    split at h
    · next hc =>
      rw [if_pos hc]
      rw [Bool.and_eq_true] at h ⊢
      exact ⟨h.1, ih h.2⟩
    · next hc =>
      rw [if_neg hc]
      rw [Bool.and_eq_true] at h ⊢
      exact ⟨h.1, ih h.2⟩

/-! ## Small and capital letters -/

theorem isWordChar_of_isUpper {c : Char} (h : c.isUpper = true) : isWordChar c = true := by
  change (((c.isUpper || c.isLower) || c.isDigit) || decide (c = '_')) = true
  rw [h, Bool.true_or, Bool.true_or, Bool.true_or]

theorem isWordChar_of_isLower {c : Char} (h : c.isLower = true) : isWordChar c = true := by
  change (((c.isUpper || c.isLower) || c.isDigit) || decide (c = '_')) = true
  rw [h, Bool.or_true, Bool.true_or, Bool.true_or]

theorem isWordChar_of_isDigit {c : Char} (h : c.isDigit = true) : isWordChar c = true := by
  change (((c.isUpper || c.isLower) || c.isDigit) || decide (c = '_')) = true
  rw [h, Bool.or_true, Bool.true_or]

theorem isWordChar_of_isLowerOrDigit {c : Char} (h : isLowerOrDigit c = true) :
    isWordChar c = true :=
  (Bool.or_eq_true_iff.1 h).elim isWordChar_of_isLower isWordChar_of_isDigit

theorem isLower_toLower {c : Char} (h : c.isUpper = true) : c.toLower.isLower = true := by
  have hword := @forall_isWordChar (fun c => !c.isUpper || c.toLower.isLower) (by decide) c
    (isWordChar_of_isUpper h)
  simpa [h] using hword

theorem toLower_of_isDigit {c : Char} (h : c.isDigit = true) : c.toLower = c := by
  have hword := @forall_isWordChar (fun c => !c.isDigit || c.toLower = c) (by decide) c
    (isWordChar_of_isDigit h)
  simpa [h] using hword

/-- A small letter has a capital of its own, and small letters and digits are no capitals. -/
theorem of_isLowerOrDigit {c : Char} (h : isLowerOrDigit c = true) :
    c.toLower = c ∧ c.isUpper = false ∧ c ≠ '_' ∧
      (c.isLower = true → c.toUpper.isUpper = true ∧ c.toUpper.toLower = c) := by
  have hword :=
    @forall_isWordChar (fun c => !isLowerOrDigit c || (c.toLower = c && !c.isUpper && c ≠ '_' &&
    (!c.isLower || (c.toUpper.isUpper && c.toUpper.toLower = c)))) (by decide) c
    (isWordChar_of_isLowerOrDigit h)
  simp only [h, Bool.not_true, Bool.false_or, Bool.and_eq_true, decide_eq_true_eq,
    Bool.not_eq_true', Bool.or_eq_true] at hword
  obtain ⟨⟨⟨hsmall, hcapital⟩, hne⟩, hletter⟩ := hword
  refine ⟨hsmall, hcapital, hne, fun hlower => hletter.resolve_left ?_⟩
  rw [hlower]
  decide

/-- The text is a word in small letters. -/
def IsSmallWord (word : List Char) : Prop := isWordOf Char.isLower word = true

instance (word : List Char) : Decidable (IsSmallWord word) := inferInstanceAs (Decidable (_ = true))

theorem IsSmallWord.isLowerOrDigit {word : List Char} (h : IsSmallWord word) :
    ∀ c ∈ word, isLowerOrDigit c = true := by
  cases word with
  | nil => cases h
  | cons c rest =>
    obtain ⟨hc, hrest⟩ := Bool.and_eq_true_iff.1 h
    exact List.forall_mem_cons.2 ⟨Bool.or_eq_true_iff.2 (.inl hc), List.all_eq_true.1 hrest⟩

theorem isLower_of_isAlpha {c : Char} (h : c.isAlpha = true) : c.toLower.isLower = true := by
  change (c.isUpper || c.isLower) = true at h
  rcases Bool.or_eq_true_iff.1 h with h | h
  · exact isLower_toLower h
  · rw [(of_isLowerOrDigit (Bool.or_eq_true_iff.2 (.inl h))).1, h]

theorem isSmallWord_toLower {word : List Char} (h : isWordOf Char.isAlpha word = true) :
    IsSmallWord (word.map Char.toLower) := by
  cases word with
  | nil => cases h
  | cons c rest =>
    obtain ⟨hc, hrest⟩ := Bool.and_eq_true_iff.1 h
    refine Bool.and_eq_true_iff.2 ⟨isLower_of_isAlpha hc, List.all_eq_true.2 fun d hd => ?_⟩
    obtain ⟨e, he, rfl⟩ := List.mem_map.1 hd
    rcases Bool.or_eq_true_iff.1 (List.all_eq_true.1 hrest e he) with he | he
    · rw [isLower_of_isAlpha he, Bool.true_or]
    · rw [toLower_of_isDigit he, he, Bool.or_true]

/-! ## The words of a styled name -/

theorem splitWords_eq {letter : Char → Bool} (hletter : ∀ c, letter c = true → isWordChar c = true)
    {name : List Char} (h : isStyled letter (markHumps name) = true) :
    splitWords name = (Text.splitAt '_' (markHumps name)).map (·.map Char.toLower) := by
  have hchars := forall_of_isStyled (by decide) (fun c hc =>
    (Bool.or_eq_true_iff.1 hc).elim (hletter c) isWordChar_of_isDigit) h
  rw [splitWords, parts_eq_splitAt hchars, List.filter_eq_self.2 fun part hpart => ?_]
  · refine List.map_congr_left fun part hpart => lowerAfter_eq_map (fun c hc => ?_) []
    rw [splitAt_eq_splitOnP] at hpart
    exact hchars c (of_mem_splitOnP hpart hc).1
  · have hword := List.all_eq_true.1 h part hpart
    cases part with
    | nil => cases hword
    | cons c rest => rfl

theorem splitAt_eq_splitOn (separator : Char) (text : List Char) :
    Text.splitAt separator text = text.splitOn separator := by
  rw [splitAt_eq_splitOnP, List.splitOn_eq_splitOnP]
  rfl

theorem isAlpha_of_isUpper {c : Char} (h : c.isUpper = true) : c.isAlpha = true :=
  Bool.or_eq_true_iff.2 (.inl h)

theorem isAlpha_of_isLower {c : Char} (h : c.isLower = true) : c.isAlpha = true :=
  Bool.or_eq_true_iff.2 (.inr h)

theorem isStyled_mono {letter other : Char → Bool} (hletter : ∀ c, letter c = true → other c = true)
    {name : List Char} (h : isStyled letter name = true) : isStyled other name = true := by
  refine List.all_eq_true.2 fun part hpart => ?_
  have hpart := List.all_eq_true.1 h part hpart
  cases part with
  | nil => cases hpart
  | cons c rest =>
    obtain ⟨hc, hrest⟩ := Bool.and_eq_true_iff.1 hpart
    refine Bool.and_eq_true_iff.2 ⟨hletter c hc, List.all_eq_true.2 fun d hd => ?_⟩
    exact Bool.or_eq_true_iff.2
      ((Bool.or_eq_true_iff.1 (List.all_eq_true.1 hrest d hd)).imp_left (hletter d))

theorem isStyled_of_upper {name : List Char} (h : isStyled Char.isUpper name = true) :
    isStyled Char.isAlpha name = true :=
  isStyled_mono (fun _ => isAlpha_of_isUpper) h

theorem isStyled_of_lower {name : List Char} (h : isStyled Char.isLower name = true) :
    isStyled Char.isAlpha name = true :=
  isStyled_mono (fun _ => isAlpha_of_isLower) h

/-- The words of a name of letters, digits and single underscores stand between underscores once
humps are marked. -/
theorem splitWords_styled {name : List Char} (h : isStyled Char.isAlpha name = true) :
    splitWords name = ((markHumps name).splitOn '_').map (·.map Char.toLower) ∧
      ∀ word ∈ splitWords name, IsSmallWord word := by
  have hmarked : isStyled Char.isAlpha (markHumps name) = true := by
    rw [isStyled_eq_completes] at h ⊢
    exact completes_markHumps (fun _ => isAlpha_of_isUpper) h
  have hword (c : Char) (hc : c.isAlpha = true) : isWordChar c = true :=
    (Bool.or_eq_true_iff.1 hc).elim isWordChar_of_isUpper isWordChar_of_isLower
  have hwords := splitWords_eq hword hmarked
  refine ⟨by rw [hwords, splitAt_eq_splitOn], fun word hmem => ?_⟩
  rw [hwords] at hmem
  obtain ⟨part, hpart, rfl⟩ := List.mem_map.1 hmem
  exact isSmallWord_toLower (List.all_eq_true.1 hmarked part hpart)

theorem markHumps_eq_self {name : List Char} (h : ∀ c ∈ name, c.isUpper = false) :
    markHumps name = name := by
  fun_induction markHumps name with
  | case1 => rfl
  | case2 c => rfl
  | case3 c d rest hhump ih =>
    rw [h d (by simp), Bool.and_false] at hhump
    cases hhump
  | case4 c d rest hhump ih => rw [ih fun e he => h e (List.mem_cons_of_mem c he)]

/-- The words of a name in small letters are those between its underscores. -/
theorem splitWords_lower {name : List Char} (h : isStyled Char.isLower name = true) :
    splitWords name = name.splitOn '_' ∧ ∀ word ∈ splitWords name, IsSmallWord word := by
  have hparts (part : List Char) (hpart : part ∈ Text.splitAt '_' name) : IsSmallWord part :=
    List.all_eq_true.1 h part hpart
  have hmarked :=
    markHumps_eq_self <| forall_of_isStyled (p := fun c => c.isUpper = false) (by decide)
    (fun c hc => (of_isLowerOrDigit hc).2.1) h
  have hwords : splitWords name = Text.splitAt '_' name := by
    rw [splitWords_eq (fun c => isWordChar_of_isLower) (by rwa [hmarked]), hmarked]
    refine (List.map_congr_left fun part hpart => ?_).trans (List.map_id _)
    exact (List.map_congr_left fun c hc =>
      (of_isLowerOrDigit ((hparts part hpart).isLowerOrDigit c hc)).1).trans (List.map_id _)
  rw [hwords]
  exact ⟨splitAt_eq_splitOn '_' name, hparts⟩

/-- A name in small letters is determined by its words. -/
theorem eq_of_splitWords_lower {name other : List Char} (hname : isStyled Char.isLower name = true)
    (hother : isStyled Char.isLower other = true) (h : splitWords name = splitWords other) :
    name = other := by
  rw [(splitWords_lower hname).1, (splitWords_lower hother).1] at h
  have hsame := congrArg ['_'].intercalate h
  rwa [List.intercalate_splitOn, List.intercalate_splitOn] at hsame

/-- A name with words is made of them in every style. -/
theorem restyle_eq (style : Style) {name : List Char} (h : splitWords name ≠ []) :
    restyle style name = style.assemble (splitWords name) := by
  rw [restyle]
  split
  · next hnil => exact absurd hnil h
  · rfl

/-! ## Camel case -/

/-- The words are words in small letters. -/
def SmallWords (words : List (List Char)) : Prop := ∀ word ∈ words, IsSmallWord word

theorem smallWords_splitWords {name : List Char} (h : isStyled Char.isAlpha name = true) :
    splitWords name ≠ [] ∧ SmallWords (splitWords name) := by
  obtain ⟨hsplit, hsmall⟩ := splitWords_styled h
  exact ⟨by simp [hsplit, List.splitOn_ne_nil], hsmall⟩

/-- The text does not go on with a small letter or a digit. -/
def StartsCapital (text : List Char) : Prop := ∀ c ∈ text.head?, c.isUpper = true

theorem capitalize_small {c : Char} {rest : List Char} (h : IsSmallWord (c :: rest)) :
    Text.capitalize (c :: rest) = c.toUpper :: rest := by
  have hchars := h.isLowerOrDigit
  rw [capitalize_eq fun d hd => isWordChar_of_isLowerOrDigit (hchars d hd)]
  refine congrArg _ ((List.map_congr_left fun d hd => ?_).trans (List.map_id _))
  exact (of_isLowerOrDigit (hchars d (List.mem_cons_of_mem c hd))).1

theorem upperCamel_cons {c : Char} {word : List Char} (h : IsSmallWord (c :: word))
    (rest : List (List Char)) :
    Style.upperCamel.assemble ((c :: word) :: rest) =
      c.toUpper :: (word ++ Style.upperCamel.assemble rest) := by
  rw [Style.assemble, List.flatMap_cons, capitalize_small h]
  rfl

/-- The first letter of a word has a capital, from which it can be told. -/
theorem IsSmallWord.capital {c : Char} {word : List Char} (h : IsSmallWord (c :: word)) :
    c.toUpper.isUpper = true ∧ c.toUpper.toLower = c :=
  (of_isLowerOrDigit (h.isLowerOrDigit c List.mem_cons_self)).2.2.2 (Bool.and_eq_true_iff.1 h).1

theorem SmallWords.exists_cons {word : List Char} {rest : List (List Char)}
    (h : SmallWords (word :: rest)) :
    (∃ c cs, word = c :: cs) ∧ IsSmallWord word ∧ SmallWords rest := by
  obtain ⟨hword, hrest⟩ := List.forall_mem_cons.1 h
  refine ⟨?_, hword, hrest⟩
  cases word with
  | nil => cases hword
  | cons c cs => exact ⟨c, cs, rfl⟩

theorem startsCapital_upperCamel {words : List (List Char)} (h : SmallWords words) :
    StartsCapital (Style.upperCamel.assemble words) := by
  cases words with
  | nil => simp [StartsCapital, Style.assemble]
  | cons word rest =>
    obtain ⟨⟨c, cs, rfl⟩, hword, -⟩ := h.exists_cons
    intro d hd
    rw [upperCamel_cons hword] at hd
    cases hd
    exact hword.capital.1

/-- A capital tells where a word in small letters ends. -/
theorem append_capital_inj {first second rest others : List Char}
    (hfirst : ∀ c ∈ first, isLowerOrDigit c = true)
    (hsecond : ∀ c ∈ second, isLowerOrDigit c = true) (hrest : StartsCapital rest)
    (hothers : StartsCapital others) (h : first ++ rest = second ++ others) :
    first = second ∧ rest = others := by
  have hstop {text : List Char} (htext : StartsCapital text) :
      text.takeWhile isLowerOrDigit = [] := by
    cases text with
    | nil => rfl
    | cons c more =>
      refine List.takeWhile_cons_of_neg fun hc => ?_
      have hcapital := htext c rfl
      rw [(of_isLowerOrDigit hc).2.1] at hcapital
      cases hcapital
  have hsame := congrArg (List.takeWhile isLowerOrDigit) h
  rw [List.takeWhile_append_of_pos hfirst, List.takeWhile_append_of_pos hsecond, hstop hrest,
    hstop hothers, List.append_nil, List.append_nil] at hsame
  exact ⟨hsame, by rwa [hsame, List.append_cancel_left_eq] at h⟩

/-- The words of a name in upper camel case are determined by it. -/
theorem upperCamel_inj {words others : List (List Char)} (hwords : SmallWords words)
    (hothers : SmallWords others) :
    Style.upperCamel.assemble words = Style.upperCamel.assemble others ↔ words = others := by
  refine ⟨fun h => ?_, fun h => h ▸ rfl⟩
  induction words generalizing others with
  | nil =>
    cases others with
    | nil => rfl
    | cons other more =>
      obtain ⟨⟨d, ds, rfl⟩, hother, -⟩ := hothers.exists_cons
      rw [upperCamel_cons hother] at h
      cases h
  | cons word rest ih =>
    obtain ⟨⟨c, cs, rfl⟩, hword, hrest⟩ := hwords.exists_cons
    rw [upperCamel_cons hword] at h
    cases others with
    | nil => cases h
    | cons other more =>
      obtain ⟨⟨d, ds, rfl⟩, hother, hmore⟩ := hothers.exists_cons
      rw [upperCamel_cons hother] at h
      obtain ⟨hcapital, htail⟩ := List.cons.inj h
      have hletter : c = d := by rw [← hword.capital.2, hcapital, hother.capital.2]
      obtain ⟨rfl, hcamel⟩ := append_capital_inj
        (fun e he => hword.isLowerOrDigit e (List.mem_cons_of_mem c he))
        (fun e he => hother.isLowerOrDigit e (List.mem_cons_of_mem d he))
        (startsCapital_upperCamel hrest) (startsCapital_upperCamel hmore) htail
      rw [hletter, ih hrest hmore hcamel]

/-- The words of a name in lower camel case are determined by it. -/
theorem lowerCamel_inj {words others : List (List Char)} (hwords : SmallWords words)
    (hothers : SmallWords others) :
    Style.lowerCamel.assemble words = Style.lowerCamel.assemble others ↔ words = others := by
  refine ⟨fun h => ?_, fun h => h ▸ rfl⟩
  cases words with
  | nil =>
    cases others with
    | nil => rfl
    | cons other more =>
      obtain ⟨⟨d, ds, rfl⟩, -⟩ := hothers.exists_cons
      cases h
  | cons word rest =>
    obtain ⟨⟨c, cs, rfl⟩, hword, hrest⟩ := hwords.exists_cons
    cases others with
    | nil => cases h
    | cons other more =>
      obtain ⟨-, hother, hmore⟩ := hothers.exists_cons
      obtain ⟨rfl, hcamel⟩ := append_capital_inj hword.isLowerOrDigit hother.isLowerOrDigit
        (startsCapital_upperCamel hrest) (startsCapital_upperCamel hmore) h
      rw [(upperCamel_inj hrest hmore).1 hcamel]

theorem underscore_notMem_upperCamel {words : List (List Char)} (h : SmallWords words) :
    '_' ∉ Style.upperCamel.assemble words := by
  induction words with
  | nil => simp [Style.assemble]
  | cons word rest ih =>
    obtain ⟨⟨c, cs, rfl⟩, hword, hrest⟩ := h.exists_cons
    rw [upperCamel_cons hword]
    simp only [List.mem_cons, List.mem_append, not_or]
    refine ⟨fun hcapital => ?_, fun hmem => ?_, ih hrest⟩
    · have hupper := hword.capital.1
      rw [← hcapital] at hupper
      cases hupper
    · exact (of_isLowerOrDigit (hword.isLowerOrDigit _ (List.mem_cons_of_mem c hmem))).2.2.1 rfl

theorem underscore_notMem_lowerCamel {words : List (List Char)} (h : SmallWords words) :
    '_' ∉ Style.lowerCamel.assemble words := by
  cases words with
  | nil => simp [Style.assemble]
  | cons word rest =>
    obtain ⟨-, hword, hrest⟩ := h.exists_cons
    refine fun hmem =>
      (List.mem_append.1 hmem).elim (fun hmem => ?_) (underscore_notMem_upperCamel hrest)
    exact (of_isLowerOrDigit (hword.isLowerOrDigit _ hmem)).2.2.1 rfl

end DartRecords.Naming

namespace DartRecords.Dart.Enum

open Naming (Style isStyled splitWords restyle SmallWords)
open Schema (Field)

/-! ## Variants -/

/-- The letters of the name of a variant: capitals for a constant, small ones otherwise. -/
def variantLetter (f : Field) : Char → Bool := if isConstant f then Char.isUpper else Char.isLower

/-- The name of the variant is a text in the style of its kind. -/
def isStyledVariant (f : Field) : Bool :=
  match f.name with
  | .str name => isStyled (variantLetter f) name.toList
  | _ => false

/-- The words of the name of a variant. -/
def variantWords (f : Field) : List (List Char) :=
  match f.name with
  | .str name => splitWords name.toList
  | _ => []

/-- The variants have different names, each in the style of its kind. -/
structure StyledVariants (fields : List Field) : Prop where
  styled : ∀ f ∈ fields, isStyledVariant f = true
  distinct : (fields.map (·.name)).Nodup

instance (fields : List Field) : Decidable (StyledVariants fields) :=
  decidable_of_iff ((∀ f ∈ fields, isStyledVariant f = true) ∧ (fields.map (·.name)).Nodup)
    ⟨fun h => ⟨h.1, h.2⟩, fun h => ⟨h.1, h.2⟩⟩

theorem exists_styledName {f : Field} (h : isStyledVariant f = true) :
    ∃ name, f.name = .str name ∧ variantWords f = splitWords name.toList ∧
      isStyled (variantLetter f) name.toList = true := by
  unfold isStyledVariant at h
  split at h
  · next name hname => exact ⟨name, hname, by rw [variantWords, hname], h⟩
  · cases h

theorem smallWords_variantWords {f : Field} (h : isStyledVariant f = true) :
    variantWords f ≠ [] ∧ SmallWords (variantWords f) := by
  obtain ⟨name, -, hwords, hstyled⟩ := exists_styledName h
  rw [hwords]
  rw [variantLetter] at hstyled
  split at hstyled
  · exact Naming.smallWords_splitWords (Naming.isStyled_of_upper hstyled)
  · exact Naming.smallWords_splitWords (Naming.isStyled_of_lower hstyled)

/-- In every style, the name of a variant is made of its words. -/
theorem restyle_variant {f : Field} (h : isStyledVariant f = true) {name : String}
    (hname : f.name = .str name) (style : Style) :
    restyle style name.toList = style.assemble (variantWords f) := by
  have hwords := (smallWords_variantWords h).1
  rw [variantWords, hname] at hwords ⊢
  exact Naming.restyle_eq style hwords

theorem mem_values {fields : List Field} {f : Field} :
    f ∈ fields.filter (!isConstant ·) ↔ f ∈ fields ∧ isConstant f = false := by
  rw [List.mem_filter, Bool.not_eq_true']

/-- A variant with a value is determined by the words of its name. -/
theorem StyledVariants.eq_of_words {fields : List Field} (h : StyledVariants fields) {f g : Field}
    (hf : f ∈ fields.filter (!isConstant ·)) (hg : g ∈ fields.filter (!isConstant ·))
    (hwords : variantWords f = variantWords g) : f = g := by
  have hname {f : Field} (hf : f ∈ fields.filter (!isConstant ·)) :
      ∃ name : String, f.name = .str name ∧ variantWords f = splitWords name.toList ∧
        isStyled Char.isLower name.toList = true := by
    obtain ⟨hf, hvalue⟩ := mem_values.1 hf
    obtain ⟨name, hname, hwords, hstyled⟩ := exists_styledName (h.styled f hf)
    rw [variantLetter, hvalue] at hstyled
    exact ⟨name, hname, hwords, hstyled⟩
  obtain ⟨name, hfname, hfwords, hfstyled⟩ := hname hf
  obtain ⟨other, hgname, hgwords, hgstyled⟩ := hname hg
  rw [hfwords, hgwords] at hwords
  have hsame := String.toList_inj.1 (Naming.eq_of_splitWords_lower hfstyled hgstyled hwords)
  exact List.inj_on_of_nodup_map h.distinct (mem_values.1 hf).1 (mem_values.1 hg).1
    (by rw [hfname, hgname, hsame])

theorem variantBase_eq {f : Field} (h : isStyledVariant f = true) :
    upperCamel f.name = .ok (String.ofList (Style.upperCamel.assemble (variantWords f))) := by
  obtain ⟨text, htext, -⟩ := exists_styledName h
  rw [← restyle_variant h htext, htext]
  rfl

theorem returns_variantBase {f : Field} (h : isStyledVariant f = true) {base : String}
    (hbase : Returns (variantBase f) base) :
    base = String.ofList (Style.upperCamel.assemble (variantWords f)) := by
  have hbase := hbase.of_lift
  rw [variantBase_eq h] at hbase
  cases hbase
  rfl

end DartRecords.Dart.Enum
