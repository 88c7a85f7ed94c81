import DartRecords.Dart.Enum
import DartRecords.Proofs.LayoutRuns

/-!
# Names that are words

A word is a text of ASCII letters, ASCII digits and underscores that is not empty.  Case conversion
maps the characters of a word one by one, so whatever style a word is brought into, the result is a
word (`IsWord.restyle`), and so is every Dart name that is made of it.  In code a word is solid: it
neither starts nor ends anything (`IsWord.solid`).
-/

namespace DartRecords.Naming

open Layout (Solid startsQuietly endsQuietly)

/-! ## Characters of words -/

/-- The character is an ASCII letter, an ASCII digit or an underscore. -/
def isWordChar (c : Char) : Bool := c.isAlphanum || c = '_'

/-- The characters are those of a word. -/
def WordChars (cs : List Char) : Prop := cs ≠ [] ∧ ∀ c ∈ cs, isWordChar c = true

/-- The text is a word. -/
def IsWord (text : String) : Prop := WordChars text.toList

instance (cs : List Char) : Decidable (WordChars cs) :=
  decidable_of_iff (cs ≠ [] ∧ cs.all isWordChar = true) (and_congr_right fun _ => List.all_eq_true)

instance (text : String) : Decidable (IsWord text) := inferInstanceAs (Decidable (WordChars _))

theorem isWordChar_lt {c : Char} (h : isWordChar c = true) : c.toNat < 128 := by
  change (((decide (c.val ≥ 'A'.val ∧ c.val ≤ 'Z'.val) || (c.val ≥ 'a'.val && c.val ≤ 'z'.val)) ||
    (c.val ≥ '0'.val && c.val ≤ '9'.val)) || c = '_') = true at h
  simp only [Bool.or_eq_true, Bool.and_eq_true, decide_eq_true_eq, ge_iff_le,
    UInt32.le_iff_toNat_le] at h
  rcases h with ((⟨-, h⟩ | ⟨-, h⟩) | ⟨-, h⟩) | rfl
  · exact Nat.lt_of_le_of_lt h (by decide)
  · exact Nat.lt_of_le_of_lt h (by decide)
  · exact Nat.lt_of_le_of_lt h (by decide)
  · decide

/-- What holds of the word characters among the first codes holds of all of them. -/
theorem forall_isWordChar {p : Char → Bool}
    (h : ∀ n < 128, isWordChar (Char.ofNat n) = true → p (Char.ofNat n) = true) {c : Char}
    (hc : isWordChar c = true) : p c = true := by
  have hcode := h c.toNat (isWordChar_lt hc)
  rw [Char.ofNat_toNat] at hcode
  exact hcode hc

theorem isWordChar_toLower {c : Char} (h : isWordChar c = true) : isWordChar c.toLower = true :=
  @forall_isWordChar (fun c => isWordChar c.toLower) (by decide) c h

theorem isWordChar_toUpper {c : Char} (h : isWordChar c = true) : isWordChar c.toUpper = true :=
  @forall_isWordChar (fun c => isWordChar c.toUpper) (by decide) c h

theorem isWordChar_quiet {c : Char} (h : isWordChar c = true) :
    (c ≠ '\n' ∧ startsQuietly c = true) ∧ endsQuietly c = true := by
  have hquiet := @forall_isWordChar (fun c => c ≠ '\n' && startsQuietly c && endsQuietly c)
    (by decide) c h
  simpa only [Bool.and_eq_true, decide_eq_true_eq] using hquiet

theorem IsWord.solid {text : String} (h : IsWord text) : Solid text := by
  obtain ⟨hne, hchars⟩ := h
  refine ⟨⟨fun hmem => (isWordChar_quiet (hchars _ hmem)).1.1 rfl, ?_⟩, ?_⟩
  · rw [List.head?_eq_some_head hne]
    exact (isWordChar_quiet (hchars _ (List.head_mem hne))).1.2
  · rw [List.getLast?_eq_some_getLast hne]
    exact (isWordChar_quiet (hchars _ (List.getLast_mem hne))).2

theorem WordChars.append {first second : List Char} (hfirst : WordChars first)
    (hsecond : ∀ c ∈ second, isWordChar c = true) : WordChars (first ++ second) := by
  refine ⟨List.append_ne_nil_of_left_ne_nil hfirst.1 second, fun c hc => ?_⟩
  exact (List.mem_append.1 hc).elim (hfirst.2 c) (hsecond c)

theorem IsWord.append {first second : String} (hfirst : IsWord first)
    (hsecond : ∀ c ∈ second.toList, isWordChar c = true) : IsWord (first ++ second) := by
  rw [IsWord, String.toList_append]
  exact WordChars.append hfirst hsecond

theorem isWord_ofList {cs : List Char} (h : WordChars cs) : IsWord (String.ofList cs) := by
  rwa [IsWord, String.toList_ofList]

/-! ## Changing case -/

theorem lowerAfter_eq_map {cs : List Char} (h : ∀ c ∈ cs, isWordChar c = true)
    (before : List Char) : Text.lowerAfter before cs = cs.map Char.toLower := by
  induction cs generalizing before with
  | nil => rfl
  | cons c rest ih =>
    have hlt := isWordChar_lt (h c List.mem_cons_self)
    have hsigma : c ≠ 'Σ' := by
      rintro rfl
      exact absurd hlt (by decide)
    rw [Text.lowerAfter, ih fun c hc => h c (List.mem_cons_of_mem _ hc), if_neg hsigma,
      Text.lowerChar, if_pos hlt]
    rfl

theorem upper_eq_map {cs : List Char} (h : ∀ c ∈ cs, isWordChar c = true) :
    Text.upper cs = cs.map Char.toUpper := by
  induction cs with
  | nil => rfl
  | cons c rest ih =>
    rw [Text.upper, List.flatMap_cons, Text.upperChar,
      if_pos (isWordChar_lt (h c List.mem_cons_self))]
    exact congrArg _ (ih fun c hc => h c (List.mem_cons_of_mem _ hc))

theorem capitalize_eq {c : Char} {rest : List Char} (h : ∀ d ∈ c :: rest, isWordChar d = true) :
    Text.capitalize (c :: rest) = c.toUpper :: rest.map Char.toLower := by
  rw [Text.capitalize, Text.titleChar, if_pos (isWordChar_lt (h c List.mem_cons_self)),
    lowerAfter_eq_map fun d hd => h d (List.mem_cons_of_mem _ hd)]
  rfl

/-! ## Words of a name -/

theorem WordChars.lower {cs : List Char} (h : WordChars cs) : WordChars (Text.lower cs) := by
  rw [Text.lower, lowerAfter_eq_map h.2]
  refine ⟨fun hnil => h.1 (List.map_eq_nil_iff.1 hnil), fun c hc => ?_⟩
  obtain ⟨d, hd, rfl⟩ := List.mem_map.1 hc
  exact isWordChar_toLower (h.2 d hd)

theorem WordChars.upper {cs : List Char} (h : WordChars cs) : WordChars (Text.upper cs) := by
  rw [upper_eq_map h.2]
  refine ⟨fun hnil => h.1 (List.map_eq_nil_iff.1 hnil), fun c hc => ?_⟩
  obtain ⟨d, hd, rfl⟩ := List.mem_map.1 hc
  exact isWordChar_toUpper (h.2 d hd)

theorem WordChars.capitalize {cs : List Char} (h : WordChars cs) :
    WordChars (Text.capitalize cs) := by
  obtain ⟨c, rest, rfl⟩ := List.exists_cons_of_ne_nil h.1
  rw [capitalize_eq h.2]
  refine ⟨by simp, fun d hd => ?_⟩
  rcases List.mem_cons.1 hd with rfl | hd
  · exact isWordChar_toUpper (h.2 c List.mem_cons_self)
  · obtain ⟨e, he, rfl⟩ := List.mem_map.1 hd
    exact isWordChar_toLower (h.2 e (List.mem_cons_of_mem _ he))

theorem mem_markHumps {text : List Char} {c : Char} (h : c ∈ markHumps text) :
    c ∈ text ∨ c = '_' := by
  fun_induction markHumps text with
  | case1 => exact .inl h
  | case2 d => exact .inl h
  | case3 d e rest hhump ih =>
    simp only [List.mem_cons] at h ih ⊢
    rcases h with h | h | h
    · exact .inl (.inl h)
    · exact .inr h
    · exact (ih h).imp_left .inr
  | case4 d e rest hhump ih =>
    simp only [List.mem_cons] at h ih ⊢
    rcases h with h | h
    · exact .inl (.inl h)
    · exact (ih h).imp_left .inr

theorem wordChars_of_mem_splitWords {name word : List Char}
    (hname : ∀ c ∈ name, isWordChar c = true) (h : word ∈ splitWords name) : WordChars word := by
  obtain ⟨part, hpart, rfl⟩ := List.mem_map.1 h
  obtain ⟨hpart, hne⟩ := List.mem_filter.1 hpart
  rw [parts_eq_splitOnP] at hpart
  refine WordChars.lower ⟨by simpa using hne, fun c hc => ?_⟩
  rcases mem_markHumps (of_mem_splitOnP hpart hc).1 with hc | rfl
  · exact hname c hc
  · rfl

/-! ## Styles -/

theorem wordChars_joinWith {words : List (List Char)} (hne : words ≠ [])
    (hwords : ∀ word ∈ words, WordChars word) : WordChars (Text.joinWith ['_'] words) := by
  induction words with
  | nil => exact absurd rfl hne
  | cons word rest ih =>
    have hword := hwords word List.mem_cons_self
    cases rest with
    | nil => exact hword
    | cons next rest =>
      have hrest := ih (by simp) fun other hother => hwords other (List.mem_cons_of_mem _ hother)
      rw [Text.joinWith]
      · exact (hword.append (List.all_eq_true.1 (by decide))).append hrest.2
      · simp

theorem wordChars_flatMap_capitalize {words : List (List Char)}
    (hwords : ∀ word ∈ words, WordChars word) :
    ∀ c ∈ words.flatMap Text.capitalize, isWordChar c = true := by
  intro c hc
  obtain ⟨word, hword, hc⟩ := List.mem_flatMap.1 hc
  exact (hwords word hword).capitalize.2 c hc

theorem wordChars_assemble (style : Style) {words : List (List Char)} (hne : words ≠ [])
    (hwords : ∀ word ∈ words, WordChars word) : WordChars (style.assemble words) := by
  obtain ⟨word, rest, rfl⟩ := List.exists_cons_of_ne_nil hne
  have hword := hwords word List.mem_cons_self
  have hrest := wordChars_flatMap_capitalize fun other hother =>
    hwords other (List.mem_cons_of_mem word hother)
  cases style with
  | lowerUnderscore => exact wordChars_joinWith hne hwords
  | upperUnderscore => exact (wordChars_joinWith hne hwords).upper
  | lowerCamel => exact hword.append hrest
  | upperCamel =>
    rw [Style.assemble, List.flatMap_cons]
    exact hword.capitalize.append hrest

/-- A word stays a word in every style. -/
theorem WordChars.restyle {name : List Char} (h : WordChars name) (style : Style) :
    WordChars (restyle style name) := by
  rw [Naming.restyle]
  split
  · exact h
  · next hne => exact wordChars_assemble style hne fun word => wordChars_of_mem_splitWords h.2

/-! ## Avoiding reserved names -/

theorem anyMarker_map_str (fits : List Char → Bool) (markers : List String) :
    Sanitizer.anyMarker fits (markers.map .str) =
      .ok (markers.any fun marker => fits marker.toList) := by
  induction markers with
  | nil => rfl
  | cons marker rest ih =>
    rw [List.map_cons, Sanitizer.anyMarker, List.any_cons]
    split
    · next hfits => rw [hfits, Bool.true_or]
    · next hfits => rw [ih, Bool.eq_false_iff.2 hfits, Bool.false_or]

theorem marked_texts (fits : List Char → Bool) (markers : List String) :
    Sanitizer.marked fits (.arr (markers.map .str)) =
      .ok (markers.any fun marker => fits marker.toList) := by
  cases markers with
  | nil => rfl
  | cons marker rest => exact anyMarker_map_str fits (marker :: rest)

theorem isReserved_ofTexts (reserved builtins : List String) (name : String) :
    (Sanitizer.ofTexts reserved builtins).isReserved (.str name) = true ↔
      name ∈ reserved ++ builtins := by
  simp [Sanitizer.isReserved, Sanitizer.ofTexts, Json.sameKey, Json.sameScalar]

/-- What a sanitizer answers about a text. -/
theorem resolve_eq (sanitizer : Sanitizer) (style : Style) (name : String) {heads tails : Json}
    {byHead byTail : Bool}
    (hheads : Sanitizer.marked (·.isPrefixOf name.toList) heads = .ok byHead)
    (htails : Sanitizer.marked (·.isSuffixOf name.toList) tails = .ok byTail) :
    sanitizer.resolve { name := .str name, style, reservedHeads := heads, reservedTails := tails } =
      .ok (String.ofList (restyle style name.toList) ++
        if sanitizer.isReserved (.str (String.ofList (restyle style name.toList))) ||
          byHead || byTail
        then "_" else "") := by
  simp only [Sanitizer.resolve, Json.text, bind, Except.bind, hheads, htails]
  split
  · rfl
  · rw [String.append_empty]

/-- A sanitizer answers every request about a word by a word. -/
theorem exists_resolve (sanitizer : Sanitizer) (style : Style) {name : String} (hname : IsWord name)
    {heads tails : Json} (hheads : ∀ fits, ∃ answer, Sanitizer.marked fits heads = .ok answer)
    (htails : ∀ fits, ∃ answer, Sanitizer.marked fits tails = .ok answer) :
    ∃ answer, sanitizer.resolve
        { name := .str name, style, reservedHeads := heads, reservedTails := tails } = .ok answer ∧
      IsWord answer := by
  obtain ⟨byHead, hheads⟩ := hheads (·.isPrefixOf name.toList)
  obtain ⟨byTail, htails⟩ := htails (·.isSuffixOf name.toList)
  refine ⟨_, resolve_eq sanitizer style name hheads htails, ?_⟩
  refine (isWord_ofList (WordChars.restyle hname style)).append ?_
  split
  · exact List.all_eq_true.1 (by decide)
  · exact List.all_eq_true.1 (by decide)

end DartRecords.Naming

namespace DartRecords.Dart

open Naming (IsWord exists_resolve marked_texts)

/-- The Dart property of a field whose name is a text. -/
theorem fieldName_str (name : String) :
    fieldName (.str name) = .ok (String.ofList (Naming.restyle .lowerCamel name.toList) ++
      if fieldSanitizer.isReserved (.str (String.ofList (Naming.restyle .lowerCamel name.toList)))
        || ["mutable_"].any (·.toList.isPrefixOf name.toList) || false
      then "_" else "") :=
  Naming.resolve_eq _ _ name (marked_texts _ ["mutable_"]) rfl

/-- The Dart member of a variant whose name is a text. -/
theorem variantName_str (name : String) :
    variantName (.str name) = .ok (String.ofList (Naming.restyle .lowerCamel name.toList) ++
      if variantSanitizer.isReserved (.str (String.ofList (Naming.restyle .lowerCamel name.toList)))
        || ["wrap_", "create_"].any (·.toList.isPrefixOf name.toList) || false
      then "_" else "") :=
  Naming.resolve_eq _ _ name (marked_texts _ ["wrap_", "create_"]) rfl

theorem exists_fieldName {name : String} (h : IsWord name) :
    ∃ answer, fieldName (.str name) = .ok answer ∧ IsWord answer :=
  exists_resolve _ _ h (fun fits => ⟨_, marked_texts fits ["mutable_"]⟩) fun _ => ⟨false, rfl⟩

theorem exists_variantName {name : String} (h : IsWord name) :
    ∃ answer, variantName (.str name) = .ok answer ∧ IsWord answer :=
  exists_resolve _ _ h (fun fits => ⟨_, marked_texts fits ["wrap_", "create_"]⟩) fun _ =>
    ⟨false, rfl⟩

theorem exists_constantName {name : String} (h : IsWord name) :
    ∃ answer, constantName (.str name) = .ok answer ∧ IsWord answer :=
  exists_resolve _ _ h (fun _ => ⟨false, rfl⟩) fun fits => ⟨_, marked_texts fits ["_METHOD"]⟩

theorem exists_upperCamel {name : String} (h : IsWord name) :
    ∃ answer, upperCamel (.str name) = .ok answer ∧ IsWord answer :=
  ⟨_, rfl, Naming.isWord_ofList (Naming.WordChars.restyle h .upperCamel)⟩

theorem isWord_lowerFirst {name : String} (h : IsWord name) : IsWord (Enum.lowerFirst name) := by
  refine Naming.isWord_ofList (Naming.WordChars.append (Naming.WordChars.lower ⟨?_, ?_⟩) ?_)
  · exact List.take_eq_nil_iff.not.2 (by simpa using h.1)
  · exact fun c hc => h.2 c (List.mem_of_mem_take hc)
  · exact fun c hc => h.2 c (List.mem_of_mem_drop hc)

end DartRecords.Dart
