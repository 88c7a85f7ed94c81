import DartRecords.Proofs.CaseStyles
import DartRecords.Proofs.Imports
import DartRecords.Proofs.Lookups

/-!
# Members of enum classes

The sealed class of an enum declares the unknown value, a constant for each constant variant, one or
two factories for each of the others, and the getter of the discriminant.  All of their names are in
lower camel case, so two of them are equal exactly if they are made of the same words and neither
has got an underscore for being reserved.  That leaves a few clashes (`enum_members_distinct_iff`):
between the words of two constants, with the unknown value, and with the factories.
-/

namespace DartRecords.Dart.Enum

open Naming (Style SmallWords IsSmallWord)
open Schema (Field Record RecordMap)

/-! ## Members -/

/-- A member of the class of an enum. -/
inductive Member where
  | constant (type name value : String)
  | factory (type name parameters body : String)
  | getter (type name : String)

namespace Member

def name : Member → String
  | constant _ name _ => name
  | factory _ name _ _ => name
  | getter _ name => name

/-- The Dart code of a member. -/
def text : Member → String
  | constant type name value => "static const " ++ type ++ " " ++ name ++ " = " ++ value ++ ";\n"
  | factory type name parameters body =>
    "static " ++ type ++ " " ++ name ++ "(" ++ parameters ++ ") => " ++ body ++ ";\n\n"
  | getter type name => type ++ " get " ++ name ++ ";\n"

@[simp] theorem text_constant (type name value : String) :
    (constant type name value).text =
      "static const " ++ type ++ " " ++ name ++ " = " ++ value ++ ";\n" := rfl

@[simp] theorem text_factory (type name parameters body : String) :
    (factory type name parameters body).text =
      "static " ++ type ++ " " ++ name ++ "(" ++ parameters ++ ") => " ++ body ++ ";\n\n" := rfl

@[simp] theorem text_getter (type name : String) :
    (getter type name).text = type ++ " get " ++ name ++ ";\n" := rfl

end Member

/-- The code of members, one after the other. -/
def membersText (members : List Member) : String := String.join (members.map Member.text)

/-- The value for a variant that is not known. -/
def unknownMember (name : String) : Member := .constant name "unknown" (name ++ "_unknown._()")

/-- The getter of the discriminant. -/
def kindMember (name : String) : Member := .getter (name ++ "_kind") "kind"

/-- The members of a sealed class with these constants and factories. -/
def sealedMembers (name : String) (constants factories : List Member) : List Member :=
  unknownMember name :: constants ++ factories ++ [kindMember name]

/-- The code of a sealed class with these constants and factories. -/
def sealedText (name : String) (constants factories : List Member) : String :=
  "sealed class " ++ name ++ " \x7b\n" ++ (unknownMember name).text ++ membersText constants
    ++ (if constants.isEmpty then "" else "\n") ++ membersText factories ++ (kindMember name).text
    ++ "\x7d\n\n"

theorem text_unknownMember (name : String) :
    (unknownMember name).text = "static const " ++ name ++ " unknown = " ++ name ++
      "_unknown._();\n" := by
  have hmiddle : " " ++ ("unknown" ++ " = ") = " unknown = " := by decide
  have hname : "unknown" ++ " = " = "unknown = " := by decide
  simp only [unknownMember, Member.text_constant, String.append_assoc]
  rw [split_append hmiddle]
  simp [split_append hname]

theorem text_kindMember (name : String) : (kindMember name).text = name ++ "_kind get kind;\n" := by
  simp [kindMember, String.append_assoc]

/-! ## Names in camel case -/

/-- The name in lower camel case. -/
def camelName (words : List (List Char)) : String := String.ofList (Style.lowerCamel.assemble words)

/-- The member of a variant whose name has these words. -/
def memberName (words : List (List Char)) : String :=
  camelName words ++ if variantSanitizer.isReserved (.str (camelName words)) then "_" else ""

/-- The words in the names of the factories for a variant. -/
def factoryWords (records : RecordMap) (f : Field) : List (List (List Char)) :=
  ("wrap".toList :: variantWords f) ::
    if (wrappedStruct? records f).isSome then ["create".toList :: variantWords f] else []

theorem camelName_inj {words others : List (List Char)} (hwords : SmallWords words)
    (hothers : SmallWords others) : camelName words = camelName others ↔ words = others := by
  rw [camelName, camelName, String.ofList_inj, Naming.lowerCamel_inj hwords hothers]

theorem underscore_notMem_camelName {words : List (List Char)} (h : SmallWords words) :
    '_' ∉ (camelName words).toList := by
  rw [camelName, String.toList_ofList]
  exact Naming.underscore_notMem_lowerCamel h

theorem append_underscore_ne_camelName {name : String} {words : List (List Char)}
    (h : SmallWords words) :
    name ++ "_" ≠ camelName words := by
  intro hsame
  refine underscore_notMem_camelName h ?_
  rw [← hsame, String.toList_append]
  exact List.mem_append_right _ (by decide)

/-- Names that may have got an underscore are equal if they are made of the same words and both or
neither of them has got one. -/
theorem camelName_append_inj {words others : List (List Char)} (hwords : SmallWords words)
    (hothers : SmallWords others) {p q : Prop} [Decidable p] [Decidable q] :
    camelName words ++ (if p then "_" else "") = camelName others ++ (if q then "_" else "") ↔
      words = others ∧ (p ↔ q) := by
  by_cases hp : p
  · by_cases hq : q
    · rw [if_pos hp, if_pos hq, String.append_left_inj, camelName_inj hwords hothers]
      simp [hp, hq]
    · rw [if_pos hp, if_neg hq, String.append_empty]
      exact iff_of_false (append_underscore_ne_camelName hothers) fun h => hq (h.2.1 hp)
  · by_cases hq : q
    · rw [if_neg hp, if_pos hq, String.append_empty]
      exact iff_of_false (append_underscore_ne_camelName hwords).symm fun h => hp (h.2.2 hq)
    · rw [if_neg hp, if_neg hq, String.append_empty, String.append_empty,
        camelName_inj hwords hothers]
      simp [hp, hq]

/-- A constant has the name that is made of some words if these are its own, and the name is
free. -/
theorem memberName_eq_camelName_iff {words others : List (List Char)} (hwords : SmallWords words)
    (hothers : SmallWords others) :
    memberName words = camelName others ↔
      words = others ∧ variantSanitizer.isReserved (.str (camelName others)) = false := by
  have hplain : camelName others = camelName others ++ if False then "_" else "" := by
    rw [if_neg not_false, String.append_empty]
  rw [memberName, hplain, camelName_append_inj hwords hothers, ← hplain]
  refine and_congr_right fun hsame => ?_
  rw [hsame, iff_false, Bool.not_eq_true]

theorem memberName_inj {words others : List (List Char)} (hwords : SmallWords words)
    (hothers : SmallWords others) : memberName words = memberName others ↔ words = others := by
  rw [memberName, memberName, camelName_append_inj hwords hothers]
  refine and_iff_left_of_imp fun hsame => ?_
  rw [hsame]

/-! ## Reserved names -/

/-- The name of a factory is not reserved. -/
theorem isReserved_factory {start : List Char}
    (hstart : start = "wrap".toList ∨ start = "create".toList) (words : List (List Char)) :
    variantSanitizer.isReserved (.str (camelName (start :: words))) = false := by
  refine eq_false_of_ne_true fun hreserved => ?_
  have hnone : ∀ name ∈ keywords ++ (objectMembers ++ enumMembers),
      ¬"wrap".toList <+: name.toList ∧ ¬"create".toList <+: name.toList := by
    decide
  have hname : (camelName (start :: words)).toList = start ++ Style.upperCamel.assemble words :=
    String.toList_ofList
  have hfree := hnone _ ((Naming.isReserved_ofTexts _ _ _).1 hreserved)
  rw [hname] at hfree
  rcases hstart with rfl | rfl
  · exact hfree.1 (List.prefix_append _ _)
  · exact hfree.2 (List.prefix_append _ _)

/-! ## Clashes -/

/-- The constants have other words than each other, than the unknown value and than the
factories. -/
structure ApartMembers (records : RecordMap) (fields : List Field) : Prop where
  constants : ((fields.filter isConstant).map variantWords).Nodup
  unknown : ∀ f ∈ fields, isConstant f = true → variantWords f ≠ ["unknown".toList]
  factories : ∀ f ∈ fields, isConstant f = true → ∀ g ∈ fields, isConstant g = false →
    variantWords f ∉ factoryWords records g

theorem mem_factoryWords {records : RecordMap} {f : Field} {words : List (List Char)}
    (h : words ∈ factoryWords records f) :
    ∃ start, (start = "wrap".toList ∨ start = "create".toList) ∧
    words = start :: variantWords f := by
  rcases List.mem_cons.1 h with rfl | h
  · exact ⟨_, .inl rfl, rfl⟩
  · split at h
    · exact ⟨_, .inr rfl, List.mem_singleton.1 h⟩
    · cases h

theorem smallWords_factory {records : RecordMap} {f : Field} (hf : isStyledVariant f = true)
    {words : List (List Char)} (h : words ∈ factoryWords records f) : SmallWords words := by
  obtain ⟨start, hstart, rfl⟩ := mem_factoryWords h
  refine List.forall_mem_cons.2 ⟨?_, (smallWords_variantWords hf).2⟩
  rcases hstart with rfl | rfl <;> decide

theorem nodup_factoryWords {records : RecordMap} {fields : List Field} (h : StyledVariants fields) :
    ((fields.filter (!isConstant ·)).flatMap (factoryWords records)).Nodup := by
  refine List.nodup_flatMap.2 ⟨fun f _ => ?_, ?_⟩
  · rw [factoryWords]
    split
    · simp
    · simp
  · refine (h.distinct.of_map.filter _).pairwise_of_forall_ne
      fun f hf g hg hne words hwords hothers => ?_
    obtain ⟨start, hstart, rfl⟩ := mem_factoryWords hwords
    obtain ⟨other, hother, hsame⟩ := mem_factoryWords hothers
    exact hne (h.eq_of_words hf hg (List.cons.inj hsame).2)

/-- The names of the constants, in order. -/
def constantNames (fields : List Field) : List String :=
  (fields.filter isConstant).map fun f => memberName (variantWords f)

/-- The names of the factories, in order. -/
def factoryNames (records : RecordMap) (fields : List Field) : List String :=
  ((fields.filter (!isConstant ·)).flatMap (factoryWords records)).map camelName

section Apart

variable {records : RecordMap} {fields : List Field}

theorem mem_constantNames {name : String} :
    name ∈ constantNames fields ↔
      ∃ f ∈ fields, isConstant f = true ∧ memberName (variantWords f) = name := by
  simp only [constantNames, List.mem_map, List.mem_filter, and_assoc]

theorem mem_factoryNames {name : String} :
    name ∈ factoryNames records fields ↔
      ∃ g ∈ fields, isConstant g = false ∧
        ∃ words ∈ factoryWords records g, camelName words = name := by
  simp only [factoryNames, List.mem_map, List.mem_flatMap, mem_values]
  constructor
  · rintro ⟨words, ⟨g, ⟨hg, hvalue⟩, hwords⟩, hname⟩
    exact ⟨g, hg, hvalue, words, hwords, hname⟩
  · rintro ⟨g, hg, hvalue, words, hwords, hname⟩
    exact ⟨words, ⟨g, ⟨hg, hvalue⟩, hwords⟩, hname⟩

variable (h : StyledVariants fields)

include h

theorem nodup_constantNames_iff :
    (constantNames fields).Nodup ↔ ((fields.filter isConstant).map variantWords).Nodup := by
  have hnames : constantNames fields =
      ((fields.filter isConstant).map variantWords).map memberName := by
    rw [constantNames, List.map_map]
    rfl
  rw [hnames]
  refine ⟨List.Nodup.of_map _, List.Nodup.map_on fun words hwords others hothers hsame => ?_⟩
  have hsmall {words : List (List Char)}
      (hwords : words ∈ (fields.filter isConstant).map variantWords) : SmallWords words := by
    obtain ⟨f, hf, rfl⟩ := List.mem_map.1 hwords
    exact (smallWords_variantWords (h.styled f (List.mem_filter.1 hf).1)).2
  exact (memberName_inj (hsmall hwords) (hsmall hothers)).1 hsame

theorem nodup_factoryNames : (factoryNames records fields).Nodup := by
  refine (nodup_factoryWords h).map_on fun words hwords others hothers hsame => ?_
  have hsmall {words : List (List Char)}
      (hwords : words ∈ (fields.filter (!isConstant ·)).flatMap (factoryWords records)) :
      SmallWords words := by
    obtain ⟨f, hf, hwords⟩ := List.mem_flatMap.1 hwords
    exact smallWords_factory (h.styled f (List.mem_filter.1 hf).1) hwords
  exact (camelName_inj (hsmall hwords) (hsmall hothers)).1 hsame

/-- A constant has the name of one word if that is its only word, and the name is free. -/
theorem camelName_mem_constantNames_iff {word : List Char} (hword : IsSmallWord word) :
    camelName [word] ∈ constantNames fields ↔
      (∃ f ∈ fields, isConstant f = true ∧ variantWords f = [word]) ∧
        variantSanitizer.isReserved (.str (camelName [word])) = false := by
  rw [mem_constantNames]
  constructor
  · rintro ⟨f, hf, hconstant, hname⟩
    obtain ⟨hwords, hfree⟩ :=
      (memberName_eq_camelName_iff (smallWords_variantWords (h.styled f hf)).2
      (List.forall_mem_singleton.2 hword)).1 hname
    exact ⟨⟨f, hf, hconstant, hwords⟩, hfree⟩
  · rintro ⟨⟨f, hf, hconstant, hwords⟩, hfree⟩
    refine ⟨f, hf, hconstant, ?_⟩
    rw [memberName, hwords, hfree]
    exact String.append_empty

/-- No factory has the name of a word that starts none. -/
theorem camelName_notMem_factoryNames {word : List Char} (hword : IsSmallWord word)
    (hstart : word ≠ "wrap".toList ∧ word ≠ "create".toList) :
    camelName [word] ∉ factoryNames records fields := by
  intro hmem
  obtain ⟨g, hg, hvalue, words, hwords, hname⟩ := mem_factoryNames.1 hmem
  have hsmall := smallWords_factory (h.styled g hg) hwords
  obtain ⟨start, hfactory, rfl⟩ := mem_factoryWords hwords
  have hsame := (camelName_inj hsmall (List.forall_mem_singleton.2 hword)).1 hname
  obtain rfl := (List.cons.inj hsame).1
  exact hfactory.elim hstart.1 hstart.2

/-- A constant and a factory have the same name if they have the same words. -/
theorem disjoint_names_iff :
    (∀ name ∈ constantNames fields, ∀ other ∈ factoryNames records fields, name ≠ other) ↔
      ∀ f ∈ fields, isConstant f = true → ∀ g ∈ fields, isConstant g = false →
        variantWords f ∉ factoryWords records g := by
  constructor
  · intro hnames f hf hconstant g hg hvalue hwords
    obtain ⟨start, hstart, hsame⟩ := mem_factoryWords hwords
    refine hnames _ (mem_constantNames.2 ⟨f, hf, hconstant, rfl⟩) _
      (mem_factoryNames.2 ⟨g, hg, hvalue, _, hwords, rfl⟩) ?_
    have hsmall := (smallWords_variantWords (h.styled f hf)).2
    exact (memberName_eq_camelName_iff hsmall hsmall).2 ⟨rfl, hsame ▸ isReserved_factory hstart _⟩
  · intro hwords name hname other hother hsame
    obtain ⟨f, hf, hconstant, rfl⟩ := mem_constantNames.1 hname
    obtain ⟨g, hg, hvalue, words, hfactory, rfl⟩ := mem_factoryNames.1 hother
    obtain ⟨rfl, -⟩ := (memberName_eq_camelName_iff (smallWords_variantWords (h.styled f hf)).2
      (smallWords_factory (h.styled g hg) hfactory)).1 hsame
    exact hwords f hf hconstant g hg hvalue hfactory

/-- The names of all members differ if the words of the constants do not clash. -/
theorem nodup_members_iff :
    ("unknown" :: constantNames fields ++ factoryNames records fields ++ ["kind"]).Nodup ↔
      ApartMembers records fields := by
  have hunknown := @camelName_mem_constantNames_iff _ h "unknown".toList (by decide)
  have hkind := @camelName_mem_constantNames_iff _ h "kind".toList (by decide)
  rw [List.nodup_append, List.nodup_append, List.nodup_cons, nodup_constantNames_iff h]
  constructor
  · rintro ⟨⟨⟨hfirst, hconstants⟩, -, hfactories⟩, -, -⟩
    refine ⟨hconstants, fun f hf hconstant hwords => ?_, ?_⟩
    · exact hfirst (hunknown.2 ⟨⟨f, hf, hconstant, hwords⟩, by decide⟩)
    · exact (disjoint_names_iff h).1 fun name hname =>
        hfactories name (List.mem_cons_of_mem _ hname)
  · rintro ⟨hconstants, hfirst, hfactories⟩
    have hnounknown :=
      @camelName_notMem_factoryNames records _ h "unknown".toList (by decide) (by decide)
    have hnokind := @camelName_notMem_factoryNames records _ h "kind".toList (by decide) (by decide)
    refine ⟨⟨⟨fun hmem => ?_, hconstants⟩, nodup_factoryNames h, ?_⟩, List.nodup_singleton _, ?_⟩
    · obtain ⟨⟨f, hf, hconstant, hwords⟩, -⟩ := hunknown.1 hmem
      exact hfirst f hf hconstant hwords
    · refine List.forall_mem_cons.2 ⟨fun other hother hsame => ?_,
        (disjoint_names_iff h).2 hfactories⟩
      rw [← hsame] at hother
      exact hnounknown hother
    · intro name hname other hother hsame
      obtain rfl := hsame.trans (List.mem_singleton.1 hother)
      rcases List.mem_append.1 hname with hname | hname
      · rcases List.mem_cons.1 hname with hname | hname
        · exact absurd hname (by decide)
        · exact absurd (hkind.1 hname).2 (by decide)
      · exact hnokind hname

end Apart

/-! ## The code of the class -/

section Code

variable {scope : Scope} {name : String}

/-- A name in capitals does not start like that of a factory. -/
theorem not_marked {text : List Char} (h : Naming.isStyled Char.isUpper text = true) :
    ["wrap_", "create_"].any (·.toList.isPrefixOf text) = false := by
  have hsmall : ∀ c ∈ text, c.isLower = false := by
    refine Naming.forall_of_isStyled (by decide) (fun c hc => ?_) h
    have hword : Naming.isWordChar c = true :=
      (Bool.or_eq_true_iff.1 hc).elim Naming.isWordChar_of_isUpper Naming.isWordChar_of_isDigit
    have hlower := @Naming.forall_isWordChar (fun c => !(c.isUpper || c.isDigit) || !c.isLower)
      (by decide +kernel) c hword
    simpa [hc] using hlower
  have hnone {marker : String} {c : Char} (hc : c ∈ marker.toList) (hlower : c.isLower = true) :
      marker.toList.isPrefixOf text = false := by
    refine eq_false_of_ne_true fun hprefix => ?_
    have hmem := (List.isPrefixOf_iff_prefix.1 hprefix).subset hc
    rw [hsmall c hmem] at hlower
    cases hlower
  have hwrap := @hnone "wrap_" 'w' (by decide) (by decide)
  have hcreate := @hnone "create_" 'c' (by decide) (by decide)
  rw [List.any_cons, List.any_cons, hwrap, hcreate]
  rfl

/-- The member of a constant is named after its words. -/
theorem variantName_eq {f : Field} (h : isStyledVariant f = true)
    (hconstant : isConstant f = true) :
    variantName f.name = .ok (memberName (variantWords f)) := by
  obtain ⟨text, htext, -, hstyled⟩ := exists_styledName h
  rw [variantLetter, if_pos hconstant] at hstyled
  rw [htext, variantName_str, restyle_variant h htext, not_marked hstyled, Bool.or_false,
    Bool.or_false]
  rfl

theorem constantMember_eq_ok {f : Field} (h : isStyledVariant f = true)
    (hconstant : isConstant f = true) {text : String}
    (htext : constantMember (Speller.plain scope) name f = .ok text) :
    ∃ member : Member, member.name = memberName (variantWords f) ∧ member.text = text := by
  obtain ⟨variant, hvariant, htext⟩ := bind_eq_ok htext
  obtain ⟨option, -, htext⟩ := bind_eq_ok htext
  have hvariant : variantName f.name = .ok variant := mapError_eq_ok_iff.1 hvariant
  refine ⟨.constant name variant (option ++ "._()"), ?_, ?_⟩
  · exact Except.ok.inj (hvariant.symm.trans (variantName_eq h hconstant))
  · obtain rfl := Except.ok.inj htext
    simp [String.append_assoc]

theorem camelName_cons (start : String) (words : List (List Char)) :
    camelName (start.toList :: words) =
      start ++ String.ofList (Style.upperCamel.assemble words) := by
  rw [camelName, ← String.toList_inj, String.toList_ofList, String.toList_append,
    String.toList_ofList]
  rfl

theorem text_wrap (name base initializer option frozen : String) :
    (Member.factory name ("wrap" ++ base) (initializer ++ " value")
      (option ++ "._(" ++ frozen ++ ")")).text =
      "static " ++ name ++ " wrap" ++ base ++ "(" ++ initializer ++ " value) => " ++ option ++ "._("
        ++ frozen ++ ");\n\n" := by
  have hspace : " " ++ "wrap" = " wrap" := by decide
  simp [String.append_assoc, split_append hspace]

theorem text_create (name base option structName : String) (parameters arguments : List String) :
    (Member.factory name ("create" ++ base) (String.join parameters)
      (option ++ "._(" ++ structName ++ "(\n" ++ String.join arguments ++ "))")).text =
      String.join (["static " ++ name ++ " create" ++ base ++ "("] ++ parameters
        ++ [") => " ++ option ++ "._(" ++ structName ++ "(\n"] ++ arguments ++ ["));\n\n"]) := by
  have hspace : " " ++ "create" = " create" := by decide
  simp [String.append_assoc, split_append hspace]

/-- The factories for a variant: one for the value, and one for the fields if that is a struct. -/
theorem factories_cases {f : Field} {code : List String}
    (h : Returns (factories (Speller.remembering scope) name f) code) :
    ∃ option base, ∃ wrap : Member, Returns (variantBase f) base ∧ wrap.name = "wrap" ++ base ∧
      ((wrappedStruct? scope.records f = none ∧ code = [wrap.text]) ∨
      ∃ struct create, wrappedStruct? scope.records f = some struct ∧
        Returns (createFactory (Speller.remembering scope) name option base struct) create ∧
        code = wrap.text :: create) := by
  obtain ⟨option, -, h⟩ := h.of_bind
  obtain ⟨base, hbase, h⟩ := h.of_bind
  obtain ⟨type, htype, h⟩ := h.of_bind
  obtain ⟨initializer, -, h⟩ := h.of_bind
  obtain ⟨frozen, -, h⟩ := h.of_bind
  have htype := htype.of_resolved
  refine ⟨option, base, .factory name ("wrap" ++ base) (initializer ++ " value")
    (option ++ "._(" ++ frozen ++ ")"), hbase, rfl, ?_⟩
  rw [← text_wrap] at h
  cases type with
  | record key =>
    obtain ⟨record, hrecord, h⟩ := h.of_bind
    have hrecord : scope.record key = .ok record := hrecord.of_lift
    split at h
    · next hstruct =>
      obtain ⟨create, hcreate, h⟩ := h.of_bind
      exact .inr ⟨record, create,
        wrappedStruct?_eq_some_iff.2 ⟨key, htype, hrecord, hstruct⟩, hcreate,
        h.of_pure.symm⟩
    · next henum =>
      refine .inl ⟨Option.eq_none_iff_forall_ne_some.2 fun struct hstruct => ?_, h.of_pure.symm⟩
      obtain ⟨key', htype', hrecord', hstruct⟩ := wrappedStruct?_eq_some_iff.1 hstruct
      cases htype.symm.trans htype'
      cases hrecord.symm.trans hrecord'
      exact henum hstruct
  | primitive p => exact .inl ⟨by rw [wrappedStruct?, htype], h.of_pure.symm⟩
  | array item => exact .inl ⟨by rw [wrappedStruct?, htype], h.of_pure.symm⟩
  | keyedArray item path keyType => exact .inl ⟨by rw [wrappedStruct?, htype], h.of_pure.symm⟩
  | optional other => exact .inl ⟨by rw [wrappedStruct?, htype], h.of_pure.symm⟩

theorem exists_create {base option : String} {struct : Record} {code : List String}
    (h : Returns (createFactory (Speller.remembering scope) name option base struct) code) :
    ∃ member : Member, member.name = "create" ++ base ∧ member.text = String.join code := by
  obtain ⟨structName, -, h⟩ := h.of_bind
  obtain ⟨parameters, -, h⟩ := h.of_bind
  obtain ⟨arguments, -, h⟩ := h.of_bind
  obtain rfl := h.of_pure
  exact ⟨_, rfl, text_create name base option structName (Struct.inBraces parameters) arguments⟩

theorem exists_factories {f : Field} (h : isStyledVariant f = true) {code : List String}
    (hcode : Returns (factories (Speller.remembering scope) name f) code) :
    ∃ members : List Member, members.map Member.name =
      (factoryWords scope.records f).map camelName ∧
      membersText members = String.join code := by
  obtain ⟨option, base, wrap, hbase, hwrap, hcode⟩ := factories_cases hcode
  have hname (start : String) : start ++ base = camelName (start.toList :: variantWords f) := by
    rw [camelName_cons, returns_variantBase h hbase]
  rcases hcode with ⟨hnone, rfl⟩ | ⟨struct, create, hsome, hcreate, rfl⟩
  · refine ⟨[wrap], ?_, rfl⟩
    rw [factoryWords, hnone, List.map_singleton, hwrap, hname]
    rfl
  · obtain ⟨member, hmember, htext⟩ := exists_create hcreate
    refine ⟨[wrap, member], ?_, by rw [String.join_cons, ← htext]; simp [membersText]⟩
    rw [factoryWords, hsome, List.map_cons, List.map_singleton, hwrap, hmember, hname, hname]
    rfl

/-- The constants of the class are named after the words of the constant variants. -/
theorem exists_constants {fields : List Field} (h : StyledVariants fields) {s s' : Session}
    (hsound : Sound scope s) {texts : List String}
    (hrun : ((fields.filter isConstant).mapM
      (constantMember (Speller.remembering scope) name)).run.run s =
      (.ok texts, s')) :
    ∃ members : List Member, members.map Member.name = constantNames fields ∧
      membersText members = String.join texts := by
  have hallows (f : Field) (hf : f ∈ fields.filter isConstant) :
      Questions.texts.AllowsField scope f := by
    obtain ⟨hmem, hconstant⟩ := List.mem_filter.1 hf
    obtain ⟨text, htext, -⟩ := exists_styledName (h.styled f hmem)
    refine ⟨⟨text, htext⟩, fun t ht => ?_⟩
    rw [isConstant, ht] at hconstant
    cases hconstant
  obtain ⟨_, -, hplain⟩ := (Simulation.keeping (Sound scope)).mapM
    (fun f hf => (spells_remembering scope).constantMember (hallows f hf) name) s hsound
  have hresult := (congrArg Prod.fst hrun).symm.trans (congrArg Prod.fst hplain)
  have hparts : ∀ f ∈ fields.filter isConstant, ∀ text,
      constantMember (Speller.plain scope) name f = .ok text →
      ∃ members : List Member, members.map Member.name = [memberName (variantWords f)] ∧
        String.join (members.map Member.text) = text := by
    intro f hf text htext
    obtain ⟨hmem, hconstant⟩ := List.mem_filter.1 hf
    obtain ⟨member, hname, hmember⟩ := constantMember_eq_ok (h.styled f hmem) hconstant htext
    exact ⟨[member], congrArg (fun name => [name]) hname, by simp [hmember]⟩
  obtain ⟨members, hnames, htext⟩ := exists_parts_of_forall₂ (forall₂_of_mapM hresult.symm) hparts
  refine ⟨members, ?_, ?_⟩
  · rw [hnames, constantNames, List.map_eq_flatMap]
  · rw [membersText, htext, List.map_id']

/-- The sealed class has constants and factories with the names that the words of the variants
give. -/
theorem exists_sealedClass {fields : List Field} (h : StyledVariants fields) {s s' : Session}
    (hsound : Sound scope s) {code : List String}
    (hrun : (sealedClass (Speller.remembering scope) name fields).run.run s = (.ok code, s')) :
    ∃ constants factories : List Member, String.join code = sealedText name constants factories ∧
      constants.map Member.name = constantNames fields ∧
      factories.map Member.name = factoryNames scope.records fields := by
  obtain ⟨texts, between, htexts, hrun⟩ := Gen.of_run_bind hrun
  obtain ⟨codes, _, hcodes, hrun⟩ := Gen.of_run_bind hrun
  obtain ⟨constants, hconstants, hconstantText⟩ := exists_constants h hsound htexts
  have hparts : ∀ f ∈ fields.filter (!isConstant ·), ∀ code,
      Returns (factories (Speller.remembering scope) name f) code →
      ∃ members : List Member, members.map Member.name =
        (factoryWords scope.records f).map camelName ∧
        String.join (members.map Member.text) = String.join code := by
    intro f hf code hcode
    exact exists_factories (h.styled f (List.mem_filter.1 hf).1) hcode
  obtain ⟨factories, hfactories, hfactoryText⟩ :=
    exists_parts_of_forall₂ (Returns.of_mapM ⟨_, _, hcodes⟩) hparts
  have hempty : constants.isEmpty = (fields.filter isConstant).isEmpty := by
    have hlengths := congrArg List.isEmpty hconstants
    rwa [constantNames, List.isEmpty_map, List.isEmpty_map] at hlengths
  refine ⟨constants, factories, ?_, hconstants, ?_⟩
  · obtain rfl := Returns.of_pure ⟨_, _, hrun⟩
    have hgap : String.join (if (fields.filter isConstant).isEmpty then [] else ["\n"]) =
        if constants.isEmpty then "" else "\n" := by
      rw [hempty]
      split <;> rfl
    change membersText factories = _ at hfactoryText
    delta sealedText
    rw [text_unknownMember, text_kindMember, hconstantText, hfactoryText, join_map_join, ← hgap]
    simp only [String.join_append, String.join_cons, String.join_nil, String.append_empty,
      String.append_assoc]
  · rw [hfactories, factoryNames, List.map_flatMap]

end Code

/-- The members that the class of an enum declares have different names exactly if the words of its
constants differ from one another, from `unknown`, and from `wrap` or `create` and the words of a
variant with such a factory. -/
theorem enum_members_distinct_iff {scope : Scope} {enum : Record} {code : List String}
    {s s' : Session} (hsound : Sound scope s)
    (hrun : (classes (Speller.remembering scope) enum).run.run s = (.ok code, s'))
    (hvariants : StyledVariants enum.fields) :
    ∃ name rest constants factories,
      scope.className enum = .ok name ∧
      String.join code = sealedText name constants factories ++ rest ∧
      constants.map Member.name = constantNames enum.fields ∧
      factories.map Member.name = factoryNames scope.records enum.fields ∧
      (((sealedMembers name constants factories).map Member.name).Nodup ↔
        ApartMembers scope.records enum.fields) := by
  obtain ⟨name, between, hname, hrun⟩ := Gen.of_run_bind hrun
  obtain ⟨hclass, rfl⟩ := Gen.of_run_lift hname
  obtain ⟨sealedOne, _, hsealed, hrun⟩ := Gen.of_run_bind hrun
  obtain ⟨constantOnes, _, -, hrun⟩ := Gen.of_run_bind hrun
  obtain ⟨wrapperOnes, _, -, hrun⟩ := Gen.of_run_bind hrun
  obtain ⟨kinds, _, -, hrun⟩ := Gen.of_run_bind hrun
  obtain rfl := Returns.of_pure ⟨_, _, hrun⟩
  obtain ⟨constants, factories, htext, hconstants, hfactories⟩ :=
    exists_sealedClass hvariants hsound hsealed
  refine ⟨name,
    String.join (unknownClass name ++ constantOnes.flatten ++ wrapperOnes.flatten ++ kinds),
    constants, factories, hclass, ?_, hconstants, hfactories, ?_⟩
  · rw [← htext]
    simp only [String.join_append, String.append_assoc]
  · rw [← nodup_members_iff hvariants, ← hconstants, ← hfactories]
    simp [sealedMembers, unknownMember, kindMember, Member.name]

/-- The shapes with other variants. -/
def shapeOf (variants : List Field) : Record := { shapeRecord with fields := variants }

def shapeScope (variants : List Field) : Scope :=
  ⟨[(pointRecord.key, pointRecord), (shapeRecord.key, shapeOf variants)], shapeRecord.modulePath⟩

/-- Two constants, one of them with a reserved name, and two variants with values. -/
def plainVariants : List Field :=
  [{ name := .str "UNIT_SQUARE", number := 1 }, { name := .str "KIND", number := 2 },
   { name := .str "circle", number := 3, type := some (.primitive .float64) },
   { name := .str "corner_point", number := 4, type := some (.record pointRecord.key) }]

theorem plainVariants_distinct : ∃ code s' name rest constants factories,
    (classes (Speller.remembering (shapeScope plainVariants)) (shapeOf plainVariants)).run.run {} =
      (.ok code, s') ∧
    String.join code = sealedText name constants factories ++ rest ∧
    constants.map Member.name = ["unitSquare", "kind_"] ∧
    factories.map Member.name = ["wrapCircle", "wrapCornerPoint", "createCornerPoint"] ∧
    ((sealedMembers name constants factories).map Member.name).Nodup := by
  obtain ⟨code, s', hrun⟩ := Gen.exists_run_of_toBool
    (show ((classes (Speller.remembering (shapeScope plainVariants))
      (shapeOf plainVariants)).run.run {}).1.toBool = true by decide +kernel)
  obtain ⟨name, rest, constants, factories, -, htext, hconstants, hfactories, hiff⟩ :=
    enum_members_distinct_iff (namesSound_empty.sound _) hrun (by decide)
  exact ⟨code, s', name, rest, constants, factories, hrun, htext, hconstants.trans (by decide),
    hfactories.trans (by decide), hiff.2 ⟨by decide, by decide, by decide⟩⟩

/-- Constants that clash with the unknown value, with a factory and with each other. -/
def clashingVariants : List Field :=
  [{ name := .str "UNKNOWN", number := 1 }, { name := .str "WRAP_FOO", number := 2 },
   { name := .str "FOO1BAR", number := 3 }, { name := .str "FOO1_BAR", number := 4 },
   { name := .str "foo", number := 5, type := some (.primitive .string) }]

/-- Three members of the class are declared twice. -/
theorem clashingVariants_declared_twice : StyledVariants clashingVariants ∧
    ((sealedClass (Speller.remembering (shapeScope clashingVariants)) "Shape"
      clashingVariants).run.run
      {}).1 = .ok [
        "sealed class Shape \x7b\n",
        "static const Shape unknown = Shape_unknown._();\n",
        "static const Shape unknown = Shape_UnknownConst._();\n",
        "static const Shape wrapFoo = Shape_WrapFooConst._();\n",
        "static const Shape foo1Bar = Shape_Foo1BarConst._();\n",
        "static const Shape foo1Bar = Shape_Foo1BarConst._();\n",
        "\n",
        "static Shape wrapFoo(_core.String value) => Shape_FooWrapper._(value);\n\n",
        "Shape_kind get kind;\n",
        "\x7d\n\n"] := by
  constructor
  · decide
  · rfl

end DartRecords.Dart.Enum
