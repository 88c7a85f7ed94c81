import DartRecords.Proofs.CaseRoundTrips
import DartRecords.Proofs.EnumMembers
import DartRecords.Proofs.Independence

/-!
# Names of fields and constants

The Dart name of a struct field or of a constant is its name in lower camel case, with an underscore
behind it if it would clash.  No reserved name has an underscore, so the result is never reserved,
whatever the given name is (`suffixed_notMem`).  Nor has a name in camel case, so two names are
equal only if they are made of the same words.  Different fields have different words.  Different
constants need not: a digit ends a word whether or not an underscore follows it
(`splitWords_capitals_iff`).
-/

namespace DartRecords.Naming

/-! ## The words of a name in capitals -/

/-- The rest of a name, behind a digit or not, without the underscores that stand right behind
digits. -/
def dropBreaks : Bool → List Char → List Char
  | _, [] => []
  | afterDigit, c :: rest =>
    if afterDigit && c = '_' then dropBreaks false rest else c :: dropBreaks c.isDigit rest

/-- The name without the underscores that stand right behind digits. -/
def withoutBreaks (name : List Char) : List Char := dropBreaks false name

theorem completes_tail {letter : Char → Bool} {atStart : Bool} {c : Char} {rest : List Char}
    (h : completes letter atStart (c :: rest) = true) :
    completes letter (decide (c = '_')) rest = true := by
  rw [completes_cons] at h
  split at h
  · next hc =>
    rw [hc]
    exact (Bool.and_eq_true_iff.1 h).2
  · next hc =>
    rw [decide_eq_false hc]
    exact (Bool.and_eq_true_iff.1 h).2

/-- Marking adds underscores right behind digits only. -/
theorem dropBreaks_markHumps {atStart : Bool} {name : List Char}
    (h : completes Char.isUpper atStart name = true) (afterDigit : Bool) :
    dropBreaks afterDigit (markHumps name) = dropBreaks afterDigit name := by
  fun_induction markHumps name generalizing atStart afterDigit with
  | case1 => rfl
  | case2 c => rfl
  | case3 c d rest hhump ih =>
    obtain ⟨hc, hd⟩ := Bool.and_eq_true_iff.1 hhump
    have hne : c ≠ '_' := (of_isLowerOrDigit hc).2.2.1
    have hne' : d ≠ '_' := by
      rintro rfl
      cases hd
    have hdigit : c.isDigit = true := by
      rw [completes_cons, if_neg hne, (of_isLowerOrDigit hc).2.1, Bool.false_or, Bool.and_eq_true,
        Bool.and_eq_true] at h
      exact h.1.2
    have ih := ih (completes_tail h) false
    simp only [dropBreaks, hne, hne', hdigit, decide_false, decide_true, Bool.and_false,
      Bool.and_true, if_true, Bool.false_eq_true, if_false] at ih ⊢
    rw [ih]
  | case4 c d rest hhump ih =>
    rw [dropBreaks, dropBreaks, ih (completes_tail h), ih (completes_tail h)]

theorem markHumps_cons_underscore (c : Char) (rest : List Char) :
    markHumps (c :: '_' :: rest) = c :: '_' :: markHumps rest := by
  have hsmooth : ¬(isLowerOrDigit c && '_'.isUpper) = true := fun h =>
    absurd (Bool.and_eq_true_iff.1 h).2 (by decide)
  rw [markHumps, if_neg hsmooth, markHumps_cons rfl]

theorem exists_capital {name : List Char} (h : completes Char.isUpper true name = true) :
    ∃ c rest, name = c :: rest ∧ c.isUpper = true := by
  cases name with
  | nil => cases h
  | cons c rest =>
    rw [completes_cons] at h
    split at h
    · cases h
    · rw [Bool.not_true, Bool.false_and, Bool.or_false, Bool.and_eq_true] at h
      exact ⟨c, rest, rfl, h.1⟩

/-- An underscore right behind a digit is marked again after it has been dropped. -/
theorem markHumps_dropBreaks {c : Char} {rest : List Char}
    (h : completes Char.isUpper (decide (c = '_')) rest = true) :
    markHumps (c :: dropBreaks c.isDigit rest) = markHumps (c :: rest) := by
  induction rest generalizing c with
  | nil => rfl
  | cons d rest ih =>
    rw [dropBreaks]
    split
    · next hbreak =>
      obtain ⟨hc, hd⟩ := Bool.and_eq_true_iff.1 hbreak
      obtain rfl := of_decide_eq_true hd
      have hrest : completes Char.isUpper true rest = true := completes_tail h
      -- A capital follows the underscore, so there is a hump where it has been dropped.
      have hkept : markHumps (dropBreaks false rest) = markHumps rest := by
        have ih := @ih '_' hrest
        rw [markHumps_cons rfl, markHumps_cons rfl] at ih
        exact (List.cons.inj ih).2
      obtain ⟨e, more, rfl, he⟩ := exists_capital hrest
      have hhump : (isLowerOrDigit c && e.isUpper) = true :=
        Bool.and_eq_true_iff.2 ⟨Bool.or_eq_true_iff.2 (.inr hc), he⟩
      have hfirst : markHumps (c :: dropBreaks false (e :: more)) =
          c :: '_' :: markHumps (dropBreaks false (e :: more)) := if_pos hhump
      rw [hfirst, hkept, markHumps_cons_underscore]
    · rw [markHumps, markHumps, ih (completes_tail h)]

theorem markHumps_withoutBreaks {name : List Char} (h : isStyled Char.isUpper name = true) :
    markHumps (withoutBreaks name) = markHumps name := by
  rw [isStyled_eq_completes] at h
  obtain ⟨c, rest, rfl, -⟩ := exists_capital h
  exact markHumps_dropBreaks (completes_tail h)

theorem markHumps_capitals_iff {name other : List Char} (hname : isStyled Char.isUpper name = true)
    (hother : isStyled Char.isUpper other = true) :
    markHumps name = markHumps other ↔ withoutBreaks name = withoutBreaks other := by
  constructor
  · intro h
    rw [isStyled_eq_completes] at hname hother
    rw [withoutBreaks, ← dropBreaks_markHumps hname, h, dropBreaks_markHumps hother, withoutBreaks]
  · intro h
    rw [← markHumps_withoutBreaks hname, h, markHumps_withoutBreaks hother]

/-- The marked name in capitals can be told from its words. -/
theorem markHumps_eq_toUpper {name : List Char} (h : isStyled Char.isUpper name = true) :
    markHumps name = (['_'].intercalate (splitWords name)).map Char.toUpper := by
  have hmarked : isStyled Char.isUpper (markHumps name) = true := by
    rw [isStyled_eq_completes] at h ⊢
    exact completes_markHumps (fun _ => id) h
  have hchars : ∀ c ∈ markHumps name, c.toLower.toUpper = c := by
    refine forall_of_isStyled (by decide) (fun c hc => ?_) hmarked
    have hword := @forall_isWordChar (fun c => !(c.isUpper || c.isDigit) || c.toLower.toUpper = c)
      (by decide +kernel) c
        ((Bool.or_eq_true_iff.1 hc).elim isWordChar_of_isUpper isWordChar_of_isDigit)
    simpa [hc] using hword
  rw [← map_toLower_markHumps (isStyled_of_upper h), List.map_map]
  exact ((List.map_congr_left hchars).trans (List.map_id _)).symm

/-- Names in capitals have the same words if they differ in underscores right behind digits only. -/
theorem splitWords_capitals_iff {name other : List Char} (hname : isStyled Char.isUpper name = true)
    (hother : isStyled Char.isUpper other = true) :
    splitWords name = splitWords other ↔ withoutBreaks name = withoutBreaks other := by
  rw [← markHumps_capitals_iff hname hother]
  constructor
  · intro h
    rw [markHumps_eq_toUpper hname, h, ← markHumps_eq_toUpper hother]
  · intro h
    rw [(splitWords_styled (isStyled_of_upper hname)).1, h,
      ← (splitWords_styled (isStyled_of_upper hother)).1]

theorem markHumps_append_underscore (front rest : List Char) :
    markHumps (front ++ '_' :: rest) = markHumps front ++ '_' :: markHumps rest := by
  fun_induction markHumps front with
  | case1 => exact markHumps_cons rfl rest
  | case2 c => exact markHumps_cons_underscore c rest
  | case3 c d front hhump ih =>
    rw [List.cons_append, List.cons_append, markHumps, if_pos hhump, ← List.cons_append, ih]
    rfl
  | case4 c d front hhump ih =>
    rw [List.cons_append, List.cons_append, markHumps, if_neg hhump, ← List.cons_append, ih]
    rfl

/-- The last word of a name like that of a method. -/
theorem splitWords_method {name : List Char} (hname : isStyled Char.isUpper name = true)
    (h : "_METHOD".toList <:+ name) :
    ∃ words, words ≠ [] ∧ splitWords name = words ++ ["method".toList] := by
  obtain ⟨front, rfl⟩ := h
  have hmarked : markHumps (front ++ "_METHOD".toList) =
      markHumps front ++ '_' :: "METHOD".toList :=
    markHumps_append_underscore front "METHOD".toList
  refine ⟨((markHumps front).splitOn '_').map (·.map Char.toLower),
    by simp [List.splitOn_ne_nil], ?_⟩
  rw [(splitWords_styled (isStyled_of_upper hname)).1, hmarked, List.splitOn_append_cons_self,
    List.map_append]
  rfl

end DartRecords.Naming

namespace DartRecords.Dart

open Enum (camelName camelName_append_inj)
open Naming (Style isStyled splitWords SmallWords withoutBreaks)
open Schema (Field)

/-! ## Fields of structs -/

theorem Reachable.run_fieldName {s : Session} (hs : Reachable s.names) (name : String) :
    ((Session.fieldName (.str name)).run.run s).1 = ofValue (fieldName (.str name)) :=
  hs.run_eq (allowsNames_namesSound.fieldName ⟨name, rfl⟩)

/-- A name that gets an underscore where it is reserved is not reserved any more. -/
theorem suffixed_notMem {reserved : List String} (hreserved : ∀ word ∈ reserved, '_' ∉ word.toList)
    {name : String} {p : Prop} [Decidable p] (h : name ∈ reserved → p) :
    name ++ (if p then "_" else "") ∉ reserved := by
  split
  · intro hmem
    refine hreserved _ hmem ?_
    rw [String.toList_append]
    exact List.mem_append_right _ (by decide)
  · next hp =>
    rw [String.append_empty]
    exact fun hmem => hp (h hmem)

theorem exists_free_fieldName (name : String) :
    ∃ property, fieldName (.str name) = .ok property ∧
      property ∉ keywords ++ (objectMembers ++ structMembers) := by
  refine ⟨_, fieldName_str name, suffixed_notMem (by decide) fun hmem => ?_⟩
  have hreserved :
      fieldSanitizer.isReserved (.str (String.ofList (Naming.restyle .lowerCamel name.toList))) =
      true := (Naming.isReserved_ofTexts keywords (objectMembers ++ structMembers) _).2 hmem
  rw [hreserved, Bool.true_or, Bool.true_or]

/-- The property of a field tells the words of its name, and these tell the name. -/
theorem fieldName_inj {name other property : String}
    (hname : isStyled Char.isLower name.toList = true)
    (hother : isStyled Char.isLower other.toList = true)
    (hfirst : fieldName (.str name) = .ok property)
    (hsecond : fieldName (.str other) = .ok property) : name = other := by
  obtain ⟨hne, hwords⟩ := Naming.smallWords_splitWords (Naming.isStyled_of_lower hname)
  obtain ⟨hne', hwords'⟩ := Naming.smallWords_splitWords (Naming.isStyled_of_lower hother)
  have h := hfirst.trans hsecond.symm
  rw [fieldName_str, fieldName_str, Naming.restyle_eq _ hne, Naming.restyle_eq _ hne'] at h
  have hsame := ((camelName_append_inj hwords hwords').1 (Except.ok.inj h)).1
  exact String.toList_inj.1 (Naming.eq_of_splitWords_lower hname hother hsame)

/-- The name of the field is a text of words in small letters. -/
def HasStyledName (f : Field) : Prop :=
  ∃ name : String, f.name = .str name ∧ isStyled Char.isLower name.toList = true

theorem exists_distinct_properties {fields : List Field} (hfields : ∀ f ∈ fields, HasStyledName f)
    (hdistinct : (fields.map (·.name)).Nodup) :
    ∃ properties, (fields.mapM fun f => ofValue (fieldName f.name)) = .ok properties ∧
      properties.Nodup := by
  have hyields : ∀ f ∈ fields, Yields (ofValue (fieldName f.name)) fun _ => True := by
    intro f hf
    obtain ⟨name, hname, -⟩ := hfields f hf
    obtain ⟨property, hproperty, -⟩ := exists_free_fieldName name
    exact ⟨property, by rw [hname, hproperty]; rfl, trivial⟩
  obtain ⟨properties, hproperties, -⟩ := Yields.mapM hyields
  have hpairs : fields.Pairwise fun f g => f.name ≠ g.name ∧ HasStyledName f ∧ HasStyledName g :=
    (List.pairwise_map.1 hdistinct).imp_of_mem fun hf hg hne => ⟨hne, hfields _ hf, hfields _ hg⟩
  refine ⟨properties, hproperties, pairwise_of_forall₂ (forall₂_of_mapM hproperties) hpairs ?_⟩
  rintro f g first second hfirst hsecond ⟨hne, ⟨name, hname, hstyled⟩, other, hother, hstyled'⟩ rfl
  have hfirst := mapError_eq_ok_iff.1 hfirst
  have hsecond := mapError_eq_ok_iff.1 hsecond
  rw [hname] at hfirst hne
  rw [hother] at hsecond hne
  exact hne (congrArg _ (fieldName_inj hstyled hstyled' hfirst hsecond))

/-- Whatever names have been asked for before, the Dart property of a field is not reserved, and it
tells the field's name if that is made of words in small letters.  So the fields of a struct have
different properties. -/
theorem field_names_legal_and_distinct {s t : Session} (hs : Reachable s.names)
    (ht : Reachable t.names) :
    (∀ name : String, ∃ property, ((Session.fieldName (.str name)).run.run s).1 = .ok property ∧
      property ∉ keywords ∧ property ∉ objectMembers ∧ property ∉ structMembers) ∧
    (∀ name other : String, isStyled Char.isLower name.toList = true →
      isStyled Char.isLower other.toList = true →
      ((Session.fieldName (.str name)).run.run s).1 =
        ((Session.fieldName (.str other)).run.run t).1 →
      name = other) ∧
    ∀ fields : List Field, (∀ f ∈ fields, HasStyledName f) → (fields.map (·.name)).Nodup →
      ∃ properties, ((fields.mapM fun f => Session.fieldName f.name).run.run s).1 = .ok properties ∧
        properties.Nodup := by
  refine ⟨fun name => ?_, fun name other hname hother h => ?_, fun fields hfields hdistinct => ?_⟩
  · obtain ⟨property, hproperty, hfree⟩ := exists_free_fieldName name
    rw [List.mem_append, List.mem_append, not_or, not_or] at hfree
    exact ⟨property, by rw [hs.run_fieldName, hproperty]; rfl, hfree⟩
  · obtain ⟨property, hproperty, -⟩ := exists_free_fieldName name
    rw [hs.run_fieldName, ht.run_fieldName, hproperty] at h
    exact fieldName_inj hname hother hproperty (mapError_eq_ok_iff.1 h.symm)
  · obtain ⟨properties, hproperties, hnodup⟩ := exists_distinct_properties hfields hdistinct
    have hgives := (Simulation.keeping NamesSound).mapM fun f hf =>
      allowsNames_namesSound.fieldName ((hfields f hf).imp fun _ => And.left)
    exact ⟨properties, (hs.run_eq hgives).trans hproperties, hnodup⟩

/-- A struct whose fields would clash with a keyword, with two members and with an accessor. -/
def crateFields : List Field :=
  [{ name := .str "class", number := 0, type := some (.primitive .string) },
   { name := .str "hash_code", number := 1, type := some (.primitive .uint64) },
   { name := .str "mutable", number := 2, type := some (.primitive .bool) },
   { name := .str "mutable_items", number := 3, type := some (.array (.primitive .string)) }]

theorem crateFields_styled : ∀ f ∈ crateFields, HasStyledName f := by
  simp only [crateFields, List.forall_mem_cons]
  exact ⟨⟨_, rfl, by decide⟩, ⟨_, rfl, by decide⟩, ⟨_, rfl, by decide⟩,
    ⟨_, rfl, by decide⟩, by simp⟩

theorem crate_names_legal_and_distinct :
    Reachable ((Session.fieldName (.str "class")).run.run {}).2.names ∧
    (∃ property, ((Session.fieldName (.str "hash code")).run.run
        ((Session.fieldName (.str "class")).run.run {}).2).1 = .ok property ∧
      property ∉ keywords ∧ property ∉ objectMembers ∧ property ∉ structMembers) ∧
    (∀ f ∈ crateFields, HasStyledName f) ∧ (crateFields.map (·.name)).Nodup ∧
    ∃ properties, ((crateFields.mapM fun f => Session.fieldName f.name).run.run
        ((Session.fieldName (.str "class")).run.run {}).2).1 = .ok properties ∧
          properties.Nodup := by
  have hclass : Reachable ((Session.fieldName (.str "class")).run.run {}).2.names :=
    Reachable.call (.fieldName "class") Reachable.empty
  have hdistinct : (crateFields.map (·.name)).Nodup := by decide
  obtain ⟨hlegal, -, hfields⟩ := field_names_legal_and_distinct hclass hclass
  exact ⟨hclass, hlegal "hash code", crateFields_styled, hdistinct,
    hfields crateFields crateFields_styled hdistinct⟩

/-! ## Constants -/

/-- The Dart variable of a constant whose name is a text. -/
theorem constantName_str (name : String) :
    constantName (.str name) = .ok (String.ofList (Naming.restyle .lowerCamel name.toList) ++
      if constantSanitizer.isReserved
        (.str (String.ofList (Naming.restyle .lowerCamel name.toList)))
        || false || ["_METHOD"].any (·.toList.isSuffixOf name.toList)
      then "_" else "") :=
  Naming.resolve_eq _ _ name rfl (Naming.marked_texts _ ["_METHOD"])

section Capitals

variable {name : String} (h : isStyled Char.isUpper name.toList = true)

include h

theorem words_of_capitals : splitWords name.toList ≠ [] ∧ SmallWords (splitWords name.toList) :=
  Naming.smallWords_splitWords (Naming.isStyled_of_upper h)

theorem constantName_styled :
    constantName (.str name) = .ok (camelName (splitWords name.toList) ++
      if camelName (splitWords name.toList) ∈ keywords ∨
      "_METHOD".toList <:+ name.toList then "_" else "") := by
  rw [constantName_str, Naming.restyle_eq _ (words_of_capitals h).1]
  refine congrArg (fun suffix => Except.ok (camelName (splitWords name.toList) ++ suffix))
    (if_congr ?_ rfl rfl)
  have hreserved := Naming.isReserved_ofTexts keywords [] (camelName (splitWords name.toList))
  rw [List.append_nil] at hreserved
  rw [Bool.or_false, Bool.or_eq_true, List.any_cons, List.any_nil, Bool.or_false,
    List.isSuffixOf_iff_suffix]
  exact or_congr_left hreserved

/-- The variable of a constant with a name like that of a method is no keyword. -/
theorem camelName_method_notMem (hmethod : "_METHOD".toList <:+ name.toList) :
    camelName (splitWords name.toList) ∉ keywords := by
  obtain ⟨words, hne, hwords⟩ := Naming.splitWords_method h hmethod
  obtain ⟨word, rest, rfl⟩ := List.exists_cons_of_ne_nil hne
  have hcamel : (camelName (splitWords name.toList)).toList =
      word ++ rest.flatMap Text.capitalize ++ "Method".toList := by
    rw [hwords, camelName, String.toList_ofList, List.cons_append, Style.assemble,
      List.flatMap_append, List.append_assoc]
    rfl
  have hnone : ∀ word ∈ keywords, ¬"Method".toList <:+ word.toList := by decide
  intro hmem
  refine hnone _ hmem ?_
  rw [hcamel]
  exact List.suffix_append _ _

end Capitals

/-- Whatever names have been asked for before, two constants whose names are made of words in
capitals have the same Dart variable exactly if the names differ in underscores right behind digits
only, and both or neither of them end like the name of a method. -/
theorem constants_share_name_iff {s t : Session} (hs : Reachable s.names) (ht : Reachable t.names)
    {name other : String} (hname : isStyled Char.isUpper name.toList = true)
    (hother : isStyled Char.isUpper other.toList = true) :
    ∃ first second, ((Session.constantName (.str name)).run.run s).1 = .ok first ∧
      ((Session.constantName (.str other)).run.run t).1 = .ok second ∧
      (first = second ↔ withoutBreaks name.toList = withoutBreaks other.toList ∧
        ("_METHOD".toList <:+ name.toList ↔ "_METHOD".toList <:+ other.toList)) := by
  have hfirst := hs.run_eq (allowsNames_namesSound.constantName ⟨name, rfl⟩)
  have hsecond := ht.run_eq (allowsNames_namesSound.constantName ⟨other, rfl⟩)
  rw [constantName_styled hname] at hfirst
  rw [constantName_styled hother] at hsecond
  refine ⟨_, _, hfirst, hsecond, ?_⟩
  rw [camelName_append_inj (words_of_capitals hname).2 (words_of_capitals hother).2,
    ← Naming.splitWords_capitals_iff hname hother]
  refine and_congr_right fun hwords => ?_
  -- A keyword gets its underscore in any case, but it has no words of a method.
  have hmethod := camelName_method_notMem hname
  have hmethod' := camelName_method_notMem hother
  rw [hwords] at hmethod ⊢
  refine ⟨fun h => ⟨fun hends => ?_, fun hends => ?_⟩, or_congr_right⟩
  · exact (h.1 (.inr hends)).resolve_left (hmethod hends)
  · exact (h.2 (.inr hends)).resolve_left (hmethod' hends)

theorem methods_keep_apart :
    isStyled Char.isUpper "GET_V2METHOD".toList = true ∧
    isStyled Char.isUpper "GET_V2_METHOD".toList = true ∧
    ∃ first second, ((Session.constantName (.str "GET_V2METHOD")).run.run {}).1 = .ok first ∧
      ((Session.constantName (.str "GET_V2_METHOD")).run.run {}).1 = .ok second ∧
      first ≠ second := by
  have hname : isStyled Char.isUpper "GET_V2METHOD".toList = true := by decide
  have hother : isStyled Char.isUpper "GET_V2_METHOD".toList = true := by decide
  have hempty : Reachable ({} : Session).names := Reachable.empty
  obtain ⟨first, second, hfirst, hsecond, hiff⟩ :=
    constants_share_name_iff hempty hempty hname hother
  exact ⟨hname, hother, first, second, hfirst, hsecond, fun hsame =>
    absurd (hiff.1 hsame).2 (by decide)⟩

/-- Two constants with different names share a Dart variable. -/
theorem constants_share_variable : "FOO1BAR" ≠ "FOO1_BAR" ∧
    isStyled Char.isUpper "FOO1BAR".toList = true ∧ isStyled Char.isUpper "FOO1_BAR".toList = true ∧
    ((Session.constantName (.str "FOO1BAR")).run.run {}).1 = .ok "foo1Bar" ∧
    ((Session.constantName (.str "FOO1_BAR")).run.run {}).1 = .ok "foo1Bar" := by
  refine ⟨by decide, by decide, by decide, ?_, ?_⟩
  · rfl
  · rfl

end DartRecords.Dart
