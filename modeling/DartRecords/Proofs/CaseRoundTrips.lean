import DartRecords.Proofs.CaseStyles
import Mathlib.Data.List.Chain

/-!
# Words that survive a change of style

A name in a style can be split into words again.  They stand between underscores once its humps are
marked, so they are those that were put together exactly if the marks stand where these meet
(`splitWords_eq_iff`).

* In capitals, a hump stands between a digit and the letter behind it, also inside of a word
  (`marked_upper_iff`).
* In camel case, no hump stands behind a word that is a single capital, so that it joins the next
  one (`marked_upperCamel_iff`).  The first word of a name in lower camel case has no capital.
-/

namespace DartRecords.Naming

/-! ## Words with underscores between them -/

theorem joinWith_eq_intercalate (separator : List Char) (words : List (List Char)) :
    Text.joinWith separator words = separator.intercalate words := by
  fun_induction Text.joinWith separator words with
  | case1 => rfl
  | case2 word => rw [List.intercalate_singleton]
  | case3 word rest hne ih => rw [ih, List.intercalate_cons_of_ne_nil hne]

theorem map_intercalate (f : Char → Char) (separator : Char) (words : List (List Char)) :
    ([separator].intercalate words).map f = [f separator].intercalate (words.map (·.map f)) := by
  induction words with
  | nil => rfl
  | cons word rest ih =>
    cases rest with
    | nil => simp
    | cons next rest =>
      have hmap : (word :: next :: rest).map (·.map f) =
          word.map f :: next.map f :: rest.map (·.map f) := rfl
      rw [List.intercalate_cons_cons, List.map_append, List.map_append, ih, hmap,
        List.intercalate_cons_cons]
      rfl

/-- A relation that underscores cannot break holds along the joined words if it holds along each of
them. -/
theorem isChain_intercalate {R : Char → Char → Prop} {separator : Char}
    (hbefore : ∀ c, R c separator) (hafter : ∀ c, R separator c) (words : List (List Char)) :
    ([separator].intercalate words).IsChain R ↔ ∀ word ∈ words, word.IsChain R := by
  induction words with
  | nil => simp
  | cons word rest ih =>
    cases rest with
    | nil => simp
    | cons next rest =>
      rw [List.intercalate_cons_cons, List.append_assoc, List.singleton_append, List.isChain_append,
        List.isChain_cons, ih]
      constructor
      · rintro ⟨hword, ⟨-, hrest⟩, -⟩
        exact List.forall_mem_cons.2 ⟨hword, hrest⟩
      · intro h
        obtain ⟨hword, hrest⟩ := List.forall_mem_cons.1 h
        refine ⟨hword, ⟨fun c _ => hafter c, hrest⟩, fun c _ d hd => ?_⟩
        cases hd
        exact hbefore c

theorem underscore_notMem_of_isWordOf {letter : Char → Bool} (hletter : letter '_' = false)
    {word : List Char} (h : isWordOf letter word = true) : '_' ∉ word := by
  cases word with
  | nil => cases h
  | cons c rest =>
    obtain ⟨hc, hrest⟩ := Bool.and_eq_true_iff.1 h
    intro hmem
    rcases List.mem_cons.1 hmem with rfl | hmem
    · rw [hletter] at hc
      cases hc
    · have hunderscore := List.all_eq_true.1 hrest '_' hmem
      rw [hletter] at hunderscore
      cases hunderscore

theorem SmallWords.underscore_notMem {words : List (List Char)} (h : SmallWords words) :
    ∀ word ∈ words, '_' ∉ word :=
  fun word hword => underscore_notMem_of_isWordOf rfl (h word hword)

theorem isStyled_intercalate {letter : Char → Bool} (hletter : letter '_' = false)
    {words : List (List Char)} (hne : words ≠ [])
    (hwords : ∀ word ∈ words, isWordOf letter word = true) :
    isStyled letter (['_'].intercalate words) = true := by
  rw [isStyled, splitAt_eq_splitOn, List.splitOn_intercalate '_' (fun word hword =>
    underscore_notMem_of_isWordOf hletter (hwords word hword)) hne]
  exact List.all_eq_true.2 hwords

/-- The words of a name with underscores between them are the name with its humps marked, in small
letters. -/
theorem map_toLower_markHumps {name : List Char} (h : isStyled Char.isAlpha name = true) :
    (markHumps name).map Char.toLower = ['_'].intercalate (splitWords name) := by
  have hmarked := @List.intercalate_splitOn _ (markHumps name) _ _ '_'
  have hlower := map_intercalate Char.toLower '_' ((markHumps name).splitOn '_')
  rw [hmarked, ← (splitWords_styled h).1] at hlower
  exact hlower

/-- The words of a name are known ones if it is these with underscores between them, once its humps
are marked and its capitals are made small. -/
theorem splitWords_eq_iff {name : List Char} (hname : isStyled Char.isAlpha name = true)
    {words : List (List Char)} (hne : words ≠ []) (hwords : SmallWords words) :
    splitWords name = words ↔ (markHumps name).map Char.toLower = ['_'].intercalate words := by
  rw [map_toLower_markHumps hname]
  refine ⟨congrArg _, fun h => ?_⟩
  have hparts := congrArg (List.splitOn '_') h
  obtain ⟨hne', hfound⟩ := smallWords_splitWords hname
  rwa [List.splitOn_intercalate '_' hfound.underscore_notMem hne',
    List.splitOn_intercalate '_' hwords.underscore_notMem hne] at hparts

/-! ## Capitals -/

/-- A word ends between the characters, without a separator. -/
def IsHump (c d : Char) : Prop := isLowerOrDigit c = true ∧ d.isUpper = true

/-- Marking changes a text, even if its capitals are made small, unless it has no hump. -/
theorem map_markHumps_eq_iff {text : List Char} :
    (markHumps text).map Char.toLower = text.map Char.toLower ↔
      text.IsChain fun c d => ¬IsHump c d := by
  fun_induction markHumps text with
  | case1 => simp
  | case2 c => simp
  | case3 c d rest hhump ih =>
    obtain ⟨hc, hd⟩ := Bool.and_eq_true_iff.1 hhump
    refine ⟨fun h => ?_, fun h => ?_⟩
    · -- The mark would have to be the capital that stands behind it.
      simp only [List.map_cons, List.cons.injEq, true_and] at h
      have hlower := isLower_toLower hd
      rw [← h.1] at hlower
      exact absurd hlower (by decide)
    · exact absurd ⟨hc, hd⟩ (List.isChain_cons_cons.1 h).1
  | case4 c d rest hhump ih =>
    have hsmooth : ¬IsHump c d := fun h => hhump (Bool.and_eq_true_iff.2 h)
    rw [List.map_cons, List.map_cons, List.cons.injEq, ih, List.isChain_cons_cons]
    simp [hsmooth]

/-- No digit of the word has a letter directly behind it. -/
def DigitsLast (word : List Char) : Prop :=
  word.IsChain fun c d => ¬(c.isDigit = true ∧ d.isLower = true)

theorem marked_upper_iff {words : List (List Char)} (hne : words ≠ []) (hwords : SmallWords words) :
    (markHumps ((['_'].intercalate words).map Char.toUpper)).map Char.toLower =
      ['_'].intercalate words ↔
      ∀ word ∈ words, DigitsLast word := by
  have hchars : ∀ c ∈ ['_'].intercalate words, c.toUpper.toLower = c ∧
      isLowerOrDigit c.toUpper = c.isDigit ∧ c.toUpper.isUpper = c.isLower := by
    refine forall_of_isStyled (by decide) (fun c hc => ?_) (isStyled_intercalate rfl hne hwords)
    have hword := @forall_isWordChar (fun c => !isLowerOrDigit c || (c.toUpper.toLower = c &&
      isLowerOrDigit c.toUpper = c.isDigit && c.toUpper.isUpper = c.isLower)) (by decide +kernel) c
      (isWordChar_of_isLowerOrDigit hc)
    have hc : isLowerOrDigit c = true := hc
    simpa [hc, and_assoc] using hword
  have hlower : (['_'].intercalate words).map (Char.toLower ∘ Char.toUpper) =
      ['_'].intercalate words :=
    (List.map_congr_left fun c hc => (hchars c hc).1).trans (List.map_id _)
  have hhumps {c d : Char} (hc : c ∈ ['_'].intercalate words) (hd : d ∈ ['_'].intercalate words) :
      ¬IsHump c.toUpper d.toUpper ↔ ¬(c.isDigit = true ∧ d.isLower = true) := by
    rw [IsHump, (hchars c hc).2.1, (hchars d hd).2.2]
  calc (markHumps ((['_'].intercalate words).map Char.toUpper)).map Char.toLower =
    ['_'].intercalate words
    _ ↔ ((['_'].intercalate words).map Char.toUpper).IsChain fun c d => ¬IsHump c d := by
      rw [← map_markHumps_eq_iff, List.map_map, hlower]
    _ ↔ (['_'].intercalate words).IsChain fun c d => ¬(c.isDigit = true ∧ d.isLower = true) := by
      rw [List.isChain_map]
      exact List.IsChain.iff_of_mem_imp fun c d hc hd => hhumps hc hd
    _ ↔ ∀ word ∈ words, DigitsLast word :=
      isChain_intercalate (by simp) (by simp) words

theorem isWordOf_toUpper {word : List Char} (h : IsSmallWord word) :
    isWordOf Char.isAlpha (word.map Char.toUpper) = true := by
  cases word with
  | nil => cases h
  | cons c rest =>
    refine Bool.and_eq_true_iff.2 ⟨isAlpha_of_isUpper h.capital.1,
      List.all_eq_true.2 fun d hd => ?_⟩
    obtain ⟨e, he, rfl⟩ := List.mem_map.1 hd
    have hsmall := h.isLowerOrDigit e (List.mem_cons_of_mem c he)
    have hword :=
      @forall_isWordChar (fun c => !isLowerOrDigit c || (c.toUpper.isAlpha || c.toUpper.isDigit))
      (by decide +kernel) e (isWordChar_of_isLowerOrDigit hsmall)
    simpa [hsmall] using hword

/-! ## Camel case -/

theorem markHumps_cons {c : Char} (h : isLowerOrDigit c = false) (rest : List Char) :
    markHumps (c :: rest) = c :: markHumps rest := by
  cases rest with
  | nil => rfl
  | cons d rest => rw [markHumps, h, Bool.false_and, if_neg Bool.false_ne_true]

/-- A word is marked off from the capital behind it. -/
theorem markHumps_append {word rest : List Char} (hword : ∀ c ∈ word, isLowerOrDigit c = true)
    (hne : word ≠ []) (hrest : StartsCapital rest) (hrest' : rest ≠ []) :
    markHumps (word ++ rest) = word ++ '_' :: markHumps rest := by
  obtain ⟨d, more, rfl⟩ := List.exists_cons_of_ne_nil hrest'
  induction word with
  | nil => exact absurd rfl hne
  | cons c word ih =>
    have hc := hword c List.mem_cons_self
    cases word with
    | nil => rw [List.singleton_append, List.singleton_append, markHumps, hc, hrest d rfl]; rfl
    | cons e word =>
      have hsmall := (of_isLowerOrDigit (hword e (by simp))).2.1
      have ih := ih (fun e he => hword e (List.mem_cons_of_mem c he)) (by simp)
      rw [List.cons_append, List.cons_append] at ih ⊢
      rw [markHumps, hsmall, Bool.and_false, if_neg Bool.false_ne_true, ih]
      rfl

theorem map_toLower_small {word : List Char} (h : ∀ c ∈ word, isLowerOrDigit c = true) :
    word.map Char.toLower = word :=
  (List.map_congr_left fun c hc => (of_isLowerOrDigit (h c hc)).1).trans (List.map_id _)

theorem markHumps_small {word : List Char} (h : ∀ c ∈ word, isLowerOrDigit c = true) :
    (markHumps word).map Char.toLower = word := by
  rw [markHumps_eq_self fun c hc => (of_isLowerOrDigit (h c hc)).2.1, map_toLower_small h]

theorem upperCamel_ne_nil {words : List (List Char)} (hwords : SmallWords words)
    (hne : words ≠ []) :
    Style.upperCamel.assemble words ≠ [] := by
  obtain ⟨word, rest, rfl⟩ := List.exists_cons_of_ne_nil hne
  obtain ⟨⟨c, cs, rfl⟩, hword, -⟩ := hwords.exists_cons
  rw [upperCamel_cons hword]
  exact List.cons_ne_nil _ _

theorem isLowerOrDigit_of_isUpper {c : Char} (h : c.isUpper = true) : isLowerOrDigit c = false := by
  refine eq_false_of_ne_true fun hsmall => ?_
  rw [(of_isLowerOrDigit hsmall).2.1] at h
  cases h

/-- The marks in a name in upper camel case tell its words apart if every word but the last one has
at least two characters. -/
theorem marked_upperCamel_iff {words : List (List Char)} (hwords : SmallWords words) :
    (markHumps (Style.upperCamel.assemble words)).map Char.toLower = ['_'].intercalate words ↔
      ∀ word ∈ words.dropLast, 2 ≤ word.length := by
  induction words with
  | nil => simp [Style.assemble, markHumps]
  | cons word rest ih =>
    obtain ⟨⟨c, cs, rfl⟩, hword, hrest⟩ := hwords.exists_cons
    have hcs : ∀ d ∈ cs, isLowerOrDigit d = true :=
      fun d hd => hword.isLowerOrDigit d (List.mem_cons_of_mem c hd)
    rw [upperCamel_cons hword, markHumps_cons (isLowerOrDigit_of_isUpper hword.capital.1),
      List.map_cons, hword.capital.2]
    cases rest with
    | nil => simp [Style.assemble, markHumps_small hcs]
    | cons next more =>
      have hstart := startsCapital_upperCamel hrest
      have hne := upperCamel_ne_nil hrest (List.cons_ne_nil _ _)
      rw [List.intercalate_cons_cons, List.dropLast_cons_of_ne_nil (List.cons_ne_nil _ _),
        List.forall_mem_cons]
      cases cs with
      | nil =>
        -- The next word starts with a capital, where an underscore should be.
        obtain ⟨d, camel, hcamel⟩ := List.exists_cons_of_ne_nil hne
        have hd : d.isUpper = true := hstart d (by rw [hcamel]; rfl)
        rw [List.nil_append, hcamel, markHumps_cons (isLowerOrDigit_of_isUpper hd)]
        refine iff_of_false (fun h => ?_) (by simp)
        have hlower := isLower_toLower hd
        rw [(List.cons.inj (List.cons.inj h).2).1] at hlower
        exact absurd hlower (by decide)
      | cons e es =>
        rw [markHumps_append hcs (List.cons_ne_nil _ _) hstart hne, List.map_append,
          map_toLower_small hcs, ← ih hrest]
        simp

theorem marked_lowerCamel_iff {words : List (List Char)} (hwords : SmallWords words) :
    (markHumps (Style.lowerCamel.assemble words)).map Char.toLower = ['_'].intercalate words ↔
      ∀ word ∈ words.tail.dropLast, 2 ≤ word.length := by
  cases words with
  | nil => simp [Style.assemble, markHumps]
  | cons word rest =>
    obtain ⟨-, hword, hrest⟩ := hwords.exists_cons
    have hcamel : Style.lowerCamel.assemble (word :: rest) =
        word ++ Style.upperCamel.assemble rest := rfl
    rw [hcamel, List.tail_cons, ← marked_upperCamel_iff hrest]
    cases rest with
    | nil => simp [Style.assemble, markHumps, markHumps_small hword.isLowerOrDigit]
    | cons next more =>
      have hne := upperCamel_ne_nil hrest (List.cons_ne_nil _ _)
      rw [markHumps_append hword.isLowerOrDigit ?_ (startsCapital_upperCamel hrest) hne,
        List.map_append, map_toLower_small hword.isLowerOrDigit, List.intercalate_cons_cons]
      · simp
      · rintro rfl
        cases hword

theorem IsSmallWord.wordChars {word : List Char} (h : IsSmallWord word) : WordChars word := by
  refine ⟨?_, fun c hc => isWordChar_of_isLowerOrDigit (h.isLowerOrDigit c hc)⟩
  rintro rfl
  cases h

/-- A name in camel case is one word of letters and digits. -/
theorem isStyled_camel {c : Char} {rest : List Char} (hc : c.isAlpha = true)
    (hchars : WordChars (c :: rest)) (hfree : '_' ∉ c :: rest) :
    isStyled Char.isAlpha (c :: rest) = true := by
  rw [isStyled, splitAt_eq_splitOn, List.splitOn_eq_singleton hfree, List.all_cons, List.all_nil,
    Bool.and_true]
  refine Bool.and_eq_true_iff.2 ⟨hc, List.all_eq_true.2 fun d hd => ?_⟩
  rcases Bool.or_eq_true_iff.1 (hchars.2 d (List.mem_cons_of_mem c hd)) with hword | hunderscore
  · exact hword
  · rw [of_decide_eq_true hunderscore] at hd
    exact absurd (List.mem_cons_of_mem c hd) hfree

/-! ## All styles -/

/-- The words can be told apart again after they have been put together in a style. -/
def Style.Recovers : Style → List (List Char) → Prop
  | .lowerUnderscore, _ => True
  | .upperUnderscore, words => ∀ word ∈ words, DigitsLast word
  | .lowerCamel, words => ∀ word ∈ words.tail.dropLast, 2 ≤ word.length
  | .upperCamel, words => ∀ word ∈ words.dropLast, 2 ≤ word.length

instance (word : List Char) : Decidable (DigitsLast word) :=
  inferInstanceAs (Decidable (List.IsChain _ _))

instance : (style : Style) → (words : List (List Char)) → Decidable (style.Recovers words)
  | .lowerUnderscore, _ => inferInstanceAs (Decidable True)
  | .upperUnderscore, words => inferInstanceAs (Decidable (∀ word ∈ words, DigitsLast word))
  | .lowerCamel, words =>
    inferInstanceAs (Decidable (∀ word ∈ words.tail.dropLast, 2 ≤ word.length))
  | .upperCamel, words => inferInstanceAs (Decidable (∀ word ∈ words.dropLast, 2 ≤ word.length))

section Assemble

variable {words : List (List Char)} (hne : words ≠ []) (hwords : SmallWords words)

include hne hwords

theorem isStyled_small : isStyled Char.isLower (['_'].intercalate words) = true :=
  isStyled_intercalate rfl hne hwords

theorem assemble_upper :
    Style.upperUnderscore.assemble words = (['_'].intercalate words).map Char.toUpper := by
  have hchars : ∀ c ∈ ['_'].intercalate words, isWordChar c = true :=
    forall_of_isStyled (by decide) (fun _ => isWordChar_of_isLowerOrDigit)
      (isStyled_small hne hwords)
  rw [Style.assemble, joinWith_eq_intercalate, upper_eq_map hchars]

theorem isStyled_assemble (style : Style) :
    isStyled Char.isAlpha (style.assemble words) = true := by
  have hchars := wordChars_assemble style hne fun word hword => (hwords word hword).wordChars
  cases style with
  | lowerUnderscore =>
    rw [Style.assemble, joinWith_eq_intercalate]
    exact isStyled_of_lower (isStyled_small hne hwords)
  | upperUnderscore =>
    rw [assemble_upper hne hwords, map_intercalate]
    refine isStyled_intercalate rfl (by simpa using hne)
      (List.forall_mem_map.2 fun word hword => ?_)
    exact isWordOf_toUpper (hwords word hword)
  | lowerCamel =>
    have hfree := underscore_notMem_lowerCamel hwords
    obtain ⟨word, rest, rfl⟩ := List.exists_cons_of_ne_nil hne
    obtain ⟨⟨c, cs, rfl⟩, hword, -⟩ := hwords.exists_cons
    exact isStyled_camel (isAlpha_of_isLower (Bool.and_eq_true_iff.1 hword).1) hchars hfree
  | upperCamel =>
    have hfree := underscore_notMem_upperCamel hwords
    obtain ⟨word, rest, rfl⟩ := List.exists_cons_of_ne_nil hne
    obtain ⟨⟨c, cs, rfl⟩, hword, -⟩ := hwords.exists_cons
    rw [upperCamel_cons hword] at hchars hfree ⊢
    exact isStyled_camel (isAlpha_of_isUpper hword.capital.1) hchars hfree

theorem splitWords_intercalate : splitWords (['_'].intercalate words) = words := by
  rw [(splitWords_lower (isStyled_small hne hwords)).1]
  exact List.splitOn_intercalate '_' hwords.underscore_notMem hne

end Assemble

/-- A name of words in small letters that is brought into a style has the same words as before
exactly if the style recovers them. -/
theorem words_recovered_iff {words : List (List Char)} (hne : words ≠ [])
    (hwords : SmallWords words) (style : Style) :
    splitWords (restyle style (['_'].intercalate words)) = words ↔ style.Recovers words := by
  have hsplit := splitWords_intercalate hne hwords
  rw [restyle_eq style (by rwa [hsplit]), hsplit]
  have hmarked := splitWords_eq_iff (isStyled_assemble hne hwords style) hne hwords
  cases style with
  | lowerUnderscore =>
    rw [Style.assemble, joinWith_eq_intercalate, hsplit]
    exact iff_of_true rfl trivial
  | upperUnderscore =>
    rw [hmarked, assemble_upper hne hwords]
    exact marked_upper_iff hne hwords
  | lowerCamel => exact hmarked.trans (marked_lowerCamel_iff hwords)
  | upperCamel => exact hmarked.trans (marked_upperCamel_iff hwords)

/-- The words of `x_axis1_y`, two of them single letters. -/
def axisWords : List (List Char) := ["x".toList, "axis1".toList, "y".toList]

theorem axisWords_recovered : axisWords ≠ [] ∧ SmallWords axisWords ∧
    splitWords (restyle .upperUnderscore (['_'].intercalate axisWords)) = axisWords ∧
    splitWords (restyle .lowerCamel (['_'].intercalate axisWords)) = axisWords ∧
    splitWords (restyle .upperCamel (['_'].intercalate axisWords)) ≠ axisWords := by
  have hne : axisWords ≠ [] := List.cons_ne_nil _ _
  have hwords : SmallWords axisWords := by
    simp only [SmallWords, axisWords, List.forall_mem_cons]
    decide
  refine ⟨hne, hwords, (words_recovered_iff hne hwords .upperUnderscore).2 (by decide),
    (words_recovered_iff hne hwords .lowerCamel).2 (by decide), fun h => ?_⟩
  exact absurd ((words_recovered_iff hne hwords .upperCamel).1 h) (by decide)

end DartRecords.Naming
