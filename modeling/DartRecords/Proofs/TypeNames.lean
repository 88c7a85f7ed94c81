import DartRecords.Proofs.Balance
import DartRecords.Proofs.CaseStyles
import DartRecords.Proofs.Imports
import DartRecords.Proofs.Lookups
import Mathlib.Data.List.Pairwise

/-!
# Types of a file

The name of each class or Dart enum that the file of a module declares is a chain of parts with
underscores between them: the names that lead to a record, and in most cases one more part.  No part
has an underscore of its own, so the chain is determined by the name.  Parts like `orMutable` start
with a small letter, as no record does, but those for variants are in upper camel case.  Hence names
are declared twice only where two constants have the same words, or where a record is nested in an
enum under the name of such a part (`type_names_distinct_iff`).
-/

namespace DartRecords.Dart

open Naming (Style SmallWords)
open Schema (Field Module Record RecordMap)
open Enum (isConstant kindSuffix variantWords StyledVariants isStyledVariant)

/-! ## Declarations of types -/

/-- The declaration of a class or of a Dart enum. -/
structure TypeDeclaration where
  keyword : String
  name : String
  /-- The class that the type implements, if there is one. -/
  parent : Option String := none
  body : String

namespace TypeDeclaration

/-- What stands before the body of a declaration. -/
def header (keyword name : String) : Option String → String
  | none => keyword ++ " " ++ name
  | some parent => keyword ++ " " ++ name ++ " implements " ++ parent

@[simp] theorem header_none (keyword name : String) :
    header keyword name none = keyword ++ " " ++ name :=
  rfl

@[simp] theorem header_some (keyword name parent : String) :
    header keyword name (some parent) = keyword ++ " " ++ name ++ " implements " ++ parent := rfl

/-- The Dart code of a declaration. -/
def text (d : TypeDeclaration) : String :=
  header d.keyword d.name d.parent ++ " \x7b\n" ++ d.body ++ "\x7d\n\n"

/-- Code that starts like a declaration and ends like one is one. -/
theorem exists_of_code (keyword name : String) (parent : Option String) (more : String)
    {first : String} {front back : List String}
    (hfirst : first = header keyword name parent ++ " \x7b\n" ++ more)
    (hfront : front.head? = some first) (hback : back.getLast? = some "\x7d\n\n") :
    ∃ d : TypeDeclaration, d.name = name ∧ d.text = String.join (front ++ back) := by
  obtain ⟨rest, rfl⟩ := List.head?_eq_some_iff.1 hfront
  obtain ⟨middle, rfl⟩ := List.getLast?_eq_some_iff.1 hback
  refine ⟨⟨keyword, name, parent, more ++ (String.join rest ++ String.join middle)⟩, rfl, ?_⟩
  delta text
  rw [hfirst]
  simp only [String.join_append, String.join_cons, String.join_nil, String.append_empty,
    String.append_assoc]

end TypeDeclaration

/-! ## Structs -/

section Struct

variable {scope : Scope} {name : String} {fields : List Field} {code : List String}

open TypeDeclaration (exists_of_code)

theorem exists_sealedStruct
    (h : Returns (Struct.sealedClass (Speller.remembering scope) name fields) code) :
    ∃ d : TypeDeclaration, d.name = name ++ "_orMutable" ∧ d.text = String.join code := by
  obtain ⟨getters, -, h⟩ := h.of_bind
  obtain rfl := h.of_pure
  exact exists_of_code "sealed class" _ none "" (by simp [String.append_assoc]) rfl rfl

theorem exists_frozenStruct
    (h : Returns (Struct.frozenClass (Speller.remembering scope) name fields) code) :
    ∃ d : TypeDeclaration, d.name = name ∧ d.text = String.join code := by
  obtain ⟨properties, -, h⟩ := h.of_bind
  obtain ⟨parameters, -, h⟩ := h.of_bind
  obtain ⟨frozenArguments, -, h⟩ := h.of_bind
  obtain ⟨formals, -, h⟩ := h.of_bind
  obtain ⟨instanceArguments, -, h⟩ := h.of_bind
  obtain ⟨defaultArguments, -, h⟩ := h.of_bind
  obtain ⟨ownFields, -, h⟩ := h.of_bind
  obtain rfl := h.of_pure
  exact exists_of_code "final class" _ (some (name ++ "_orMutable")) ""
    (by simp [String.append_assoc])
    rfl rfl

theorem exists_mutableStruct
    (h : Returns (Struct.mutableClass (Speller.remembering scope) name fields) code) :
    ∃ d : TypeDeclaration, d.name = name ++ "_mutable" ∧ d.text = String.join code := by
  obtain ⟨properties, -, h⟩ := h.of_bind
  obtain ⟨formals, -, h⟩ := h.of_bind
  obtain ⟨arguments, -, h⟩ := h.of_bind
  obtain rfl := h.of_pure
  exact exists_of_code "final class" _ (some (name ++ "_orMutable")) "\n"
    (by simp [String.append_assoc])
    rfl rfl

end Struct

/-! ## Enums -/

section Enum

variable {scope : Scope} {name : String} {fields : List Field} {f : Field} {code : List String}

open TypeDeclaration (exists_of_code)

/-- The part that the name of a variant's class adds to that of its enum. -/
def optionPart (f : Field) : String :=
  String.ofList (Style.upperCamel.assemble (variantWords f)) ++ kindSuffix f

theorem exists_sealedEnum
    (h : Returns (Enum.sealedClass (Speller.remembering scope) name fields) code) :
    ∃ d : TypeDeclaration, d.name = name ∧ d.text = String.join code := by
  obtain ⟨constants, -, h⟩ := h.of_bind
  obtain ⟨values, -, h⟩ := h.of_bind
  obtain rfl := h.of_pure
  exact exists_of_code "sealed class" _ none "" (by simp [String.append_assoc]) rfl rfl

theorem exists_unknownClass (name : String) :
    ∃ d : TypeDeclaration, d.name = name ++ "_unknown" ∧
    d.text = String.join (Enum.unknownClass name) :=
  exists_of_code "final class" _ (some name) "" (by simp [String.append_assoc]) rfl rfl

theorem returns_optionClass (hf : isStyledVariant f = true) {option : String}
    (h : Returns (Enum.optionClass name f) option) : option = name ++ "_" ++ optionPart f := by
  obtain ⟨base, hbase, h⟩ := h.of_bind
  obtain rfl := h.of_pure
  rw [Enum.returns_variantBase hf hbase, optionPart, String.append_assoc]

theorem exists_constantClass (hf : isStyledVariant f = true)
    (h : Returns (Enum.constantClass name f) code) :
    ∃ d : TypeDeclaration, d.name = name ++ "_" ++ optionPart f ∧ d.text = String.join code := by
  obtain ⟨option, hoption, h⟩ := h.of_bind
  obtain ⟨kind, -, h⟩ := h.of_bind
  obtain rfl := h.of_pure
  obtain rfl := returns_optionClass hf hoption
  exact exists_of_code "final class" _ (some name) "" (by simp [String.append_assoc]) rfl rfl

theorem exists_wrapperClass (hf : isStyledVariant f = true)
    (h : Returns (Enum.wrapperClass (Speller.remembering scope) name f) code) :
    ∃ d : TypeDeclaration, d.name = name ++ "_" ++ optionPart f ∧ d.text = String.join code := by
  obtain ⟨option, hoption, h⟩ := h.of_bind
  obtain ⟨type, -, h⟩ := h.of_bind
  obtain ⟨value, -, h⟩ := h.of_bind
  obtain ⟨kind, -, h⟩ := h.of_bind
  obtain rfl := h.of_pure
  obtain rfl := returns_optionClass hf hoption
  exact exists_of_code "final class" _ (some name) "" (by simp [String.append_assoc]) rfl rfl

theorem exists_kindEnum (h : Returns (Enum.kindEnum name fields) code) :
    ∃ d : TypeDeclaration, d.name = name ++ "_kind" ∧ d.text = String.join code := by
  obtain ⟨kinds, -, h⟩ := h.of_bind
  obtain rfl := h.of_pure
  exact exists_of_code "enum" _ none "" (by simp [String.append_assoc]) rfl rfl

end Enum

/-! ## Records -/

/-- The parts that the names of the types of a record add to its own name; one of them is just
that. -/
def typeParts (r : Record) : List (Option String) :=
  if r.isStruct then [some "orMutable", none, some "mutable"]
  else [none, some "unknown"] ++ (r.fields.filter isConstant).map (fun f => some (optionPart f))
    ++ (r.fields.filter (!isConstant ·)).map (fun f => some (optionPart f)) ++ [some "kind"]

/-- The name of a type of a record. -/
def typeName (name : String) : Option String → String
  | none => name
  | some part => name ++ "_" ++ part

/-- The code of the types of a record. -/
def recordText (declared : List TypeDeclaration) : String :=
  "\n" ++ String.join (declared.map TypeDeclaration.text)

/-- The declarations are those of the types of a record. -/
def DeclaresTypes (scope : Scope) (r : Record) (declared : List TypeDeclaration) : Prop :=
  ∃ name, scope.className r = .ok name ∧
    declared.map TypeDeclaration.name = (typeParts r).map (typeName name)

section Records

variable {scope : Scope} {r : Record} {code : List String}

theorem exists_structTypes (hkind : r.isStruct = true)
    (h : Returns (Struct.classes (Speller.remembering scope) r) code) :
    ∃ declared, DeclaresTypes scope r declared ∧
      String.join (declared.map TypeDeclaration.text) = String.join code := by
  obtain ⟨name, hname, h⟩ := h.of_bind
  obtain ⟨sealedOne, hsealed, h⟩ := h.of_bind
  obtain ⟨frozenOne, hfrozen, h⟩ := h.of_bind
  obtain ⟨mutableOne, hmutable, h⟩ := h.of_bind
  obtain rfl := h.of_pure
  obtain ⟨first, hfirst, hfirstText⟩ := exists_sealedStruct hsealed
  obtain ⟨second, hsecond, hsecondText⟩ := exists_frozenStruct hfrozen
  obtain ⟨third, hthird, hthirdText⟩ := exists_mutableStruct hmutable
  refine ⟨[first, second, third], ⟨name, hname.of_lift, ?_⟩, ?_⟩
  · rw [typeParts, if_pos hkind]
    simp [hfirst, hsecond, hthird, typeName, String.append_assoc]
  · simp [hfirstText, hsecondText, hthirdText]

theorem exists_enumTypes (hkind : r.isStruct = false) (hvariants : StyledVariants r.fields)
    (h : Returns (Enum.classes (Speller.remembering scope) r) code) :
    ∃ declared, DeclaresTypes scope r declared ∧
      String.join (declared.map TypeDeclaration.text) = String.join code := by
  obtain ⟨name, hname, h⟩ := h.of_bind
  obtain ⟨sealedOne, hsealed, h⟩ := h.of_bind
  obtain ⟨constantOnes, hconstants, h⟩ := h.of_bind
  obtain ⟨wrapperOnes, hwrappers, h⟩ := h.of_bind
  obtain ⟨kinds, hkinds, h⟩ := h.of_bind
  obtain rfl := h.of_pure
  obtain ⟨first, hfirst, hfirstText⟩ := exists_sealedEnum hsealed
  obtain ⟨second, hsecond, hsecondText⟩ := exists_unknownClass name
  obtain ⟨last, hlast, hlastText⟩ := exists_kindEnum hkinds
  have hsingle {f : Field} {code : List String} (h : ∃ d : TypeDeclaration,
      d.name = name ++ "_" ++ optionPart f ∧ d.text = String.join code) :
      ∃ ds : List TypeDeclaration, ds.map TypeDeclaration.name =
        [typeName name (some (optionPart f))] ∧
        String.join (ds.map TypeDeclaration.text) = String.join code := by
    obtain ⟨d, hname, htext⟩ := h
    exact ⟨[d], congrArg (fun name => [name]) hname, by simp [htext]⟩
  obtain ⟨constants, hconstantNames, hconstantText⟩ := exists_parts_of_forall₂ hconstants.of_mapM
    fun f hf _ hcode =>
      hsingle (exists_constantClass (hvariants.styled f (List.mem_filter.1 hf).1) hcode)
  obtain ⟨wrappers, hwrapperNames, hwrapperText⟩ := exists_parts_of_forall₂ hwrappers.of_mapM
    fun f hf _ hcode =>
      hsingle (exists_wrapperClass (hvariants.styled f (List.mem_filter.1 hf).1) hcode)
  rw [← List.map_eq_flatMap] at hconstantNames hwrapperNames
  rw [join_map_join] at hconstantText hwrapperText
  refine ⟨first :: second :: constants ++ wrappers ++ [last], ⟨name, hname.of_lift, ?_⟩, ?_⟩
  · rw [typeParts, if_neg (by simp [hkind])]
    simp [hfirst, hsecond, hlast, hconstantNames, hwrapperNames, typeName, String.append_assoc,
      Function.comp_def]
  · simp [hfirstText, hsecondText, hlastText, hconstantText, hwrapperText]

/-- The code of a record declares its types. -/
theorem exists_types (hvariants : r.isStruct = false → StyledVariants r.fields)
    (h : Returns (recordCode (Speller.remembering scope) r) code) :
    ∃ declared, DeclaresTypes scope r declared ∧ recordText declared = String.join code := by
  have hdeclared : ∃ types, code = "\n" :: types ∧ ∃ declared, DeclaresTypes scope r declared ∧
      String.join (declared.map TypeDeclaration.text) = String.join types := by
    rw [recordCode] at h
    split at h
    · next hkind =>
      obtain ⟨types, htypes, h⟩ := h.of_bind
      exact ⟨types, h.of_pure.symm, exists_structTypes hkind htypes⟩
    · next hkind =>
      obtain ⟨types, htypes, h⟩ := h.of_bind
      have hkind := eq_false_of_ne_true hkind
      exact ⟨types, h.of_pure.symm, exists_enumTypes hkind (hvariants hkind) htypes⟩
  obtain ⟨types, rfl, declared, hnames, htext⟩ := hdeclared
  exact ⟨declared, hnames, by rw [recordText, htext, String.join_cons]⟩

end Records

/-! ## Chains of parts -/

/-- The texts of the names that lead to a record. -/
def chain (r : Record) : List String := r.ancestors.map Json.display

/-- The text is a capital that letters and digits follow. -/
def isClassText : List Char → Bool
  | [] => false
  | c :: rest => c.isUpper && rest.all Char.isAlphanum

/-- The name is a text that a record may have as its name. -/
def isClassName : Json → Bool
  | .str name => isClassText name.toList
  | _ => false

/-- The types of a record, each as the parts of its name. -/
def typeChains (r : Record) : List (List String) := (typeParts r).map (chain r ++ ·.toList)

section Chains

theorem typeName_intercalate {parts : List String} (h : parts ≠ []) (part : Option String) :
    typeName ("_".intercalate parts) part = "_".intercalate (parts ++ part.toList) := by
  cases part with
  | none => rw [Option.toList_none, List.append_nil, typeName]
  | some last =>
    rw [Option.toList_some, String.intercalate_append_of_ne_nil h (by simp),
      String.intercalate_singleton, typeName]

/-- Parts without underscores are determined by the name that they make. -/
theorem intercalate_inj {parts others : List String} (hparts : ∀ part ∈ parts, '_' ∉ part.toList)
    (hothers : ∀ part ∈ others, '_' ∉ part.toList) (hne : parts ≠ []) (hne' : others ≠ [])
    (h : "_".intercalate parts = "_".intercalate others) : parts = others := by
  have hsplit {parts : List String} (hparts : ∀ part ∈ parts, '_' ∉ part.toList)
      (hne : parts ≠ []) :
      ("_".intercalate parts).toList.splitOn '_' = parts.map String.toList := by
    rw [String.toList_intercalate]
    exact List.splitOn_intercalate '_' (List.forall_mem_map.2 hparts) (by simpa using hne)
  have hsame := hsplit hparts hne
  rw [h, hsplit hothers hne'] at hsame
  exact ((List.map_injective_iff.2 fun _ _ => String.toList_inj.1) hsame).symm

/-- Chains that differ, each with some last parts added, differ as long as each is there alone, its
last parts differ, and no chain is another one with a last part. -/
theorem nodup_nested_iff {α β : Type} {items : List α} {chain : α → List β}
    {lasts : α → List (Option β)} (hchains : (items.map chain).Nodup)
    (hself : ∀ a, none ∈ lasts a) :
    (items.flatMap fun a => (lasts a).map (chain a ++ ·.toList)).Nodup ↔
      (∀ a ∈ items, (lasts a).Nodup) ∧
      ∀ a ∈ items, ∀ b ∈ items, ∀ last, some last ∈ lasts a → chain b ≠ chain a ++ [last] := by
  have hinjective (a : α) : Function.Injective fun last : Option β => chain a ++ last.toList := by
    intro first second h
    have h := List.append_cancel_left h
    cases first <;> cases second <;> simp_all
  have hmap (a : α) : ((lasts a).map (chain a ++ ·.toList)).Nodup ↔ (lasts a).Nodup :=
    List.nodup_map_iff (hinjective a)
  simp only [List.nodup_flatMap, hmap]
  refine and_congr_right fun _ => ⟨fun hpairs a ha b hb last hlast hsame => ?_, fun hapart => ?_⟩
  · have hne : a ≠ b := by
      rintro rfl
      simp at hsame
    have : Std.Symm (Function.onFun List.Disjoint fun a => (lasts a).map (chain a ++ ·.toList)) :=
      ⟨fun _ _ h _ hfirst hsecond => h hsecond hfirst⟩
    have hdisjoint := hpairs.forall ha hb hne
    refine hdisjoint (List.mem_map.2 ⟨some last, hlast, rfl⟩) (List.mem_map.2 ⟨none, hself b, ?_⟩)
    simpa using hsame
  · refine hchains.of_map.pairwise_of_forall_ne fun a ha b hb hne parts hparts hothers => ?_
    obtain ⟨first, hfirst, rfl⟩ := List.mem_map.1 hparts
    obtain ⟨second, hsecond, hsame⟩ := List.mem_map.1 hothers
    have hother : chain a ≠ chain b := fun h => hne (List.inj_on_of_nodup_map hchains ha hb h)
    cases first with
    | none =>
      cases second with
      | none => exact hother (by simpa using hsame.symm)
      | some last => exact hapart b hb a ha last hsecond (by simpa using hsame.symm)
    | some last =>
      cases second with
      | none => exact hapart a ha b hb last hfirst (by simpa using hsame)
      | some other => exact hother (List.append_inj_left' hsame rfl).symm

end Chains

/-! ## Parts -/

section Parts

theorem optionPart_toList (f : Field) :
    (optionPart f).toList = Style.upperCamel.assemble
    (variantWords f) ++ (kindSuffix f).toList := by
  rw [optionPart, String.toList_append, String.toList_ofList]

theorem underscore_notMem_optionPart {f : Field} (h : isStyledVariant f = true) :
    '_' ∉ (optionPart f).toList := by
  rw [optionPart_toList, List.mem_append, not_or]
  refine ⟨Naming.underscore_notMem_upperCamel (Enum.smallWords_variantWords h).2, ?_⟩
  rw [kindSuffix]
  split <;> decide

/-- The part for a variant starts with a capital. -/
theorem optionPart_ne {f : Field} (h : isStyledVariant f = true) {part : String}
    (hpart : part.toList.head?.any Char.isUpper = false) : optionPart f ≠ part := by
  rintro rfl
  obtain ⟨hne, hsmall⟩ := Enum.smallWords_variantWords h
  obtain ⟨word, rest, hwords⟩ := List.exists_cons_of_ne_nil hne
  rw [hwords] at hsmall
  obtain ⟨⟨c, cs, rfl⟩, hword, -⟩ := hsmall.exists_cons
  rw [optionPart_toList, hwords, Naming.upperCamel_cons hword, List.cons_append, List.head?_cons,
    Option.any_some, hword.capital.1] at hpart
  cases hpart

/-- The part for a variant tells its words and whether it is a constant. -/
theorem optionPart_inj {f g : Field} (hf : isStyledVariant f = true)
    (hg : isStyledVariant g = true) :
    optionPart f = optionPart g ↔ variantWords f = variantWords g ∧
    isConstant f = isConstant g := by
  constructor
  · intro hsame
    have hlist := congrArg String.toList hsame
    rw [optionPart_toList, optionPart_toList] at hlist
    have hkind : isConstant f = isConstant g := by
      have hlast := congrArg List.getLast? hlist
      rw [kindSuffix, kindSuffix] at hlast
      cases hfkind : isConstant f <;> cases hgkind : isConstant g <;> simp_all
    rw [kindSuffix, kindSuffix, hkind, List.append_cancel_right_eq,
      Naming.upperCamel_inj (Enum.smallWords_variantWords hf).2
        (Enum.smallWords_variantWords hg).2] at hlist
    exact ⟨hlist, hkind⟩
  · rintro ⟨hwords, hkind⟩
    rw [optionPart, optionPart, hwords, kindSuffix, kindSuffix, hkind]

variable {fields : List Field} (h : StyledVariants fields)

include h

theorem nodup_constantParts_iff :
    ((fields.filter isConstant).map fun f => some (optionPart f)).Nodup ↔
      ((fields.filter isConstant).map variantWords).Nodup := by
  have hconstants := h.distinct.of_map.filter isConstant
  rw [List.nodup_map_iff_inj_on hconstants, List.nodup_map_iff_inj_on hconstants]
  refine forall₂_congr fun f hf => forall₂_congr fun g hg => imp_congr_left ?_
  obtain ⟨hf, hfkind⟩ := List.mem_filter.1 hf
  obtain ⟨hg, hgkind⟩ := List.mem_filter.1 hg
  rw [Option.some_inj, optionPart_inj (h.styled f hf) (h.styled g hg), hfkind, hgkind]
  exact and_iff_left rfl

theorem nodup_valueParts :
    ((fields.filter (!isConstant ·)).map fun f => some (optionPart f)).Nodup := by
  refine (h.distinct.of_map.filter _).map_on fun f hf g hg hsame => ?_
  refine h.eq_of_words hf hg ?_
  exact ((optionPart_inj (h.styled f (Enum.mem_values.1 hf).1)
    (h.styled g (Enum.mem_values.1 hg).1)).1
    (Option.some.inj hsame)).1

omit h in
/-- The parts of the types of an enum differ if those for its constants do. -/
theorem nodup_typeParts_iff {r : Record} (hkind : r.isStruct = false)
    (h : StyledVariants r.fields) :
    (typeParts r).Nodup ↔ ((r.fields.filter isConstant).map variantWords).Nodup := by
  have hfixed {p : Field → Bool} {fixed part : Option String}
      (hmem : fixed ∈ [none, some "unknown", some "kind"])
      (hpart : part ∈ (r.fields.filter p).map fun f => some (optionPart f)) : fixed ≠ part := by
    obtain ⟨f, hf, rfl⟩ := List.mem_map.1 hpart
    have hstyled := h.styled f (List.mem_filter.1 hf).1
    have hunknown := @optionPart_ne f hstyled "unknown" (by decide)
    have hkind := @optionPart_ne f hstyled "kind" (by decide)
    simp only [List.mem_cons, List.not_mem_nil, or_false] at hmem
    rcases hmem with rfl | rfl | rfl
    · simp
    · simpa using hunknown.symm
    · simpa using hkind.symm
  rw [typeParts, if_neg (by simp [hkind]), List.nodup_append, List.nodup_append, List.nodup_append,
    nodup_constantParts_iff h]
  refine ⟨fun hnodup => hnodup.1.1.2.1, fun hwords => ?_⟩
  refine ⟨⟨⟨by decide, hwords, ?_⟩, nodup_valueParts h, ?_⟩, List.nodup_singleton _, ?_⟩
  · intro fixed hmem part hpart
    exact hfixed (List.mem_append_left _ hmem) hpart
  · intro first hfirst part hpart
    rcases List.mem_append.1 hfirst with hmem | hconstant
    · exact hfixed (List.mem_append_left _ hmem) hpart
    · obtain ⟨f, hf, rfl⟩ := List.mem_map.1 hconstant
      obtain ⟨g, hg, rfl⟩ := List.mem_map.1 hpart
      obtain ⟨hf, hfkind⟩ := List.mem_filter.1 hf
      obtain ⟨hg, hgkind⟩ := Enum.mem_values.1 hg
      intro hsame
      have hkinds := ((optionPart_inj (h.styled f hf) (h.styled g hg)).1 (Option.some.inj hsame)).2
      rw [hfkind, hgkind] at hkinds
      cases hkinds
  · intro first hfirst last hlast
    cases List.mem_singleton.1 hlast
    simp only [List.mem_append] at hfirst
    rcases hfirst with (hmem | hconstant) | hvalue
    · rintro rfl
      simp at hmem
    · exact (hfixed (by simp) hconstant).symm
    · exact (hfixed (by simp) hvalue).symm

end Parts

/-! ## Modules -/

/-- The records belong to the module, and are told apart by the names that lead to them; the
variants of its enums have different names in the style of their kind. -/
structure NestedRecords (module : Module) : Prop where
  path : ∀ r ∈ module.records, r.modulePath = module.path
  nonempty : ∀ r ∈ module.records, r.ancestors ≠ []
  named : ∀ r ∈ module.records, ∀ name ∈ r.ancestors, isClassName name = true
  distinct : (module.records.map (·.ancestors)).Nodup
  variants : ∀ r ∈ module.records, r.isStruct = false → StyledVariants r.fields

/-- The constants of each enum have different words, and no record is nested in an enum under the
name that the class of a variant has there. -/
structure ApartTypes (records : List Record) : Prop where
  constants : ∀ r ∈ records, r.isStruct = false →
    ((r.fields.filter isConstant).map variantWords).Nodup
  options : ∀ enum ∈ records, enum.isStruct = false → ∀ f ∈ enum.fields, ∀ r ∈ records,
    r.ancestors ≠ enum.ancestors ++ [.str (optionPart f)]

section Names

variable {r : Record}

theorem ancestors_eq (h : ∀ name ∈ r.ancestors, isClassName name = true) :
    r.ancestors = (chain r).map Json.str ∧ ∀ part ∈ chain r, isClassText part.toList = true := by
  rw [chain, List.map_map]
  have hname {name : Json} (hname : name ∈ r.ancestors) :
      ∃ text : String, name = .str text ∧ isClassText text.toList = true := by
    have hclass := h name hname
    unfold isClassName at hclass
    split at hclass
    · exact ⟨_, rfl, hclass⟩
    · cases hclass
  refine ⟨((List.map_congr_left fun name hmem => ?_).trans (List.map_id _)).symm, ?_⟩
  · obtain ⟨text, rfl, -⟩ := hname hmem
    rfl
  · intro part hpart
    obtain ⟨name, hmem, rfl⟩ := List.mem_map.1 hpart
    obtain ⟨text, rfl, htext⟩ := hname hmem
    exact htext

theorem underscore_notMem_classText {text : List Char} (h : isClassText text = true) :
    '_' ∉ text := by
  cases text with
  | nil => simp
  | cons c rest =>
    obtain ⟨hc, hrest⟩ := Bool.and_eq_true_iff.1 h
    intro hmem
    rcases List.mem_cons.1 hmem with rfl | hmem
    · cases hc
    · cases List.all_eq_true.1 hrest _ hmem

/-- A part is one of four words, or that of a variant. -/
theorem mem_typeParts {part : String} (h : some part ∈ typeParts r) :
    part ∈ ["orMutable", "mutable", "unknown", "kind"] ∨
      r.isStruct = false ∧ ∃ f ∈ r.fields, part = optionPart f := by
  rw [typeParts] at h
  split at h
  · simp only [List.mem_cons, Option.some.injEq, reduceCtorEq, List.not_mem_nil, or_false,
      false_or] at h
    rcases h with rfl | rfl
    · exact .inl (by decide)
    · exact .inl (by decide)
  · next hkind =>
    simp only [List.mem_append, List.mem_cons, List.mem_map, List.mem_filter, Option.some.injEq,
      reduceCtorEq, List.not_mem_nil, or_false, false_or] at h
    rcases h with ((rfl | ⟨f, ⟨hf, -⟩, rfl⟩) | ⟨f, ⟨hf, -⟩, rfl⟩) | rfl
    · exact .inl (by decide)
    · exact .inr ⟨eq_false_of_ne_true hkind, f, hf, rfl⟩
    · exact .inr ⟨eq_false_of_ne_true hkind, f, hf, rfl⟩
    · exact .inl (by decide)

theorem optionPart_mem_typeParts {f : Field} (hkind : r.isStruct = false) (hf : f ∈ r.fields) :
    some (optionPart f) ∈ typeParts r := by
  rw [typeParts, if_neg (by simp [hkind])]
  refine List.mem_append_left _ ?_
  cases hconstant : isConstant f with
  | true =>
    refine List.mem_append_left _ (List.mem_append_right _ (List.mem_map.2 ⟨f, ?_, rfl⟩))
    exact List.mem_filter.2 ⟨hf, hconstant⟩
  | false =>
    refine List.mem_append_right _ (List.mem_map.2 ⟨f, ?_, rfl⟩)
    exact Enum.mem_values.2 ⟨hf, hconstant⟩

theorem none_mem_typeParts (r : Record) : none ∈ typeParts r := by
  rw [typeParts]
  split
  · simp
  · simp

end Names

section NestedRecords

variable {module : Module} (h : NestedRecords module)

include h

theorem chain_ne_nil {r : Record} (hr : r ∈ module.records) : chain r ≠ [] := by
  simpa [chain] using h.nonempty r hr

theorem underscore_notMem_typeChains {r : Record} (hr : r ∈ module.records) {parts : List String}
    (hparts : parts ∈ typeChains r) : parts ≠ [] ∧ ∀ part ∈ parts, '_' ∉ part.toList := by
  obtain ⟨last, hlast, rfl⟩ := List.mem_map.1 hparts
  refine ⟨List.append_ne_nil_of_left_ne_nil (chain_ne_nil h hr) _, fun part hpart => ?_⟩
  rcases List.mem_append.1 hpart with hpart | hpart
  · exact underscore_notMem_classText ((ancestors_eq (h.named r hr)).2 part hpart)
  · obtain rfl := Option.mem_toList.1 hpart
    rcases mem_typeParts hlast with hfixed | ⟨hkind, f, hf, rfl⟩
    · have hnone : ∀ part ∈ ["orMutable", "mutable", "unknown", "kind"],
          '_' ∉ part.toList := by decide
      exact hnone part hfixed
    · exact underscore_notMem_optionPart ((h.variants r hr hkind).styled f hf)

theorem nodup_chains : (module.records.map chain).Nodup := by
  refine List.Nodup.of_map (List.map Json.str) ?_
  rw [List.map_map]
  refine (List.map_congr_left fun r hr => ?_).symm ▸ h.distinct
  exact (ancestors_eq (h.named r hr)).1.symm

/-- The chains of the types of a module differ exactly if its types are apart. -/
theorem nodup_typeChains_iff :
    (module.records.flatMap typeChains).Nodup ↔ ApartTypes module.records := by
  refine (nodup_nested_iff (nodup_chains h) none_mem_typeParts).trans ⟨?_, ?_⟩
  · rintro ⟨hparts, hapart⟩
    refine ⟨fun r hr hkind => ?_, fun enum henum hkind f hf r hr hsame => ?_⟩
    · exact (nodup_typeParts_iff hkind (h.variants r hr hkind)).1 (hparts r hr)
    · refine hapart enum henum r hr _ (optionPart_mem_typeParts hkind hf) ?_
      rw [chain, hsame, List.map_append]
      rfl
  · rintro ⟨hconstants, hoptions⟩
    refine ⟨fun r hr => ?_, fun enum henum r hr last hlast hsame => ?_⟩
    · cases hkind : r.isStruct with
      | true =>
        rw [typeParts, if_pos hkind]
        decide
      | false => exact (nodup_typeParts_iff hkind (h.variants r hr hkind)).2 (hconstants r hr hkind)
    · rcases mem_typeParts hlast with hfixed | ⟨hkind, f, hf, rfl⟩
      · -- The last of the names that lead to a record starts with a capital.
        have hclass := (ancestors_eq (h.named r hr)).2 last (by simp [hsame])
        have hsmall : ∀ part ∈ ["orMutable", "mutable", "unknown", "kind"],
            isClassText part.toList = false := by decide
        rw [hsmall last hfixed] at hclass
        cases hclass
      · refine hoptions enum henum hkind f hf r hr ?_
        rw [(ancestors_eq (h.named r hr)).1, hsame, List.map_append,
          ← (ancestors_eq (h.named enum henum)).1]
        rfl

/-- The names of the types of a module differ exactly if its types are apart. -/
theorem nodup_typeNames_iff :
    ((module.records.flatMap typeChains).map "_".intercalate).Nodup ↔
      ApartTypes module.records := by
  refine Iff.trans ⟨List.Nodup.of_map _, List.Nodup.map_on ?_⟩ (nodup_typeChains_iff h)
  intro parts hparts others hothers hsame
  obtain ⟨r, hr, hparts⟩ := List.mem_flatMap.1 hparts
  obtain ⟨other, hother, hothers⟩ := List.mem_flatMap.1 hothers
  obtain ⟨hne, hfree⟩ := underscore_notMem_typeChains h hr hparts
  obtain ⟨hne', hfree'⟩ := underscore_notMem_typeChains h hother hothers
  exact intercalate_inj hfree hfree' hne hne' hsame

theorem className_eq_intercalate {records : RecordMap} {path : String}
    (hpath : module.path = .str path) {r : Record} (hr : r ∈ module.records) :
    (⟨records, .str path⟩ : Scope).className r = .ok ("_".intercalate (chain r)) := by
  rw [className_eq (ancestors_eq (h.named r hr)).1 ((h.path r hr).trans hpath),
    if_pos (same_str path)]

end NestedRecords

/-- The declared names are those of the chains. -/
theorem names_of_declared {scope : Scope} {records : List Record}
    {declared : List (List TypeDeclaration)}
    (hrecords : ∀ r ∈ records, chain r ≠ [] ∧ scope.className r = .ok ("_".intercalate (chain r)))
    (h : List.Forall₂ (DeclaresTypes scope) records declared) :
    declared.flatten.map TypeDeclaration.name =
      (records.flatMap typeChains).map "_".intercalate := by
  induction h with
  | nil => rfl
  | @cons r first records rest hfirst _ ih =>
    obtain ⟨⟨hne, hclass⟩, hothers⟩ := List.forall_mem_cons.1 hrecords
    obtain ⟨name, hname, hnames⟩ := hfirst
    obtain rfl := Except.ok.inj (hclass.symm.trans hname)
    rw [List.flatten_cons, List.map_append, hnames, ih hothers, List.flatMap_cons, List.map_append,
      typeChains, List.map_map]
    congr 1
    exact List.map_congr_left fun part _ => typeName_intercalate hne part

theorem exists_recordTypes {scope : Scope} {records : List Record} {codes : List (List String)}
    (hvariants : ∀ r ∈ records, r.isStruct = false → StyledVariants r.fields)
    (h : List.Forall₂ (fun r code => Returns (recordCode (Speller.remembering scope) r) code)
      records codes) :
    ∃ declared, codes.map String.join = declared.map recordText ∧
      List.Forall₂ (DeclaresTypes scope) records declared := by
  induction h with
  | nil => exact ⟨[], rfl, .nil⟩
  | cons hcode _ ih =>
    obtain ⟨hfirst, hrest⟩ := List.forall_mem_cons.1 hvariants
    obtain ⟨first, hdeclares, htext⟩ := exists_types hfirst hcode
    obtain ⟨rest, htexts, hothers⟩ := ih hrest
    exact ⟨first :: rest, by rw [List.map_cons, List.map_cons, htext, htexts],
      .cons hdeclares hothers⟩

/-- The texts are the code of methods and constants of a module. -/
def IsOtherCode (scope : Scope) (module : Module) (texts : List String) : Prop :=
  ∀ text ∈ texts,
    (∃ method ∈ module.methods, Returns (methodCode (Speller.remembering scope) method) text) ∨
    ∃ constant ∈ module.constants, Returns (constantCode (Speller.remembering scope) constant) text

/-- The code of a module declares the types of its records, before its methods and constants. -/
theorem exists_declared {scope : Scope} {module : Module} {config : Config} {texts : List String}
    (hvariants : ∀ r ∈ module.records, r.isStruct = false → StyledVariants r.fields)
    (h : Returns (declarations (Speller.remembering scope) config module) texts) :
    ∃ declared others, texts = declared.map recordText ++ others ∧ IsOtherCode scope module others ∧
      List.Forall₂ (DeclaresTypes scope) module.records declared := by
  obtain ⟨codes, hcodes, h⟩ := h.of_bind
  obtain ⟨methods, hmethods, h⟩ := h.of_bind
  obtain ⟨declared, hdeclared, hnames⟩ := exists_recordTypes hvariants hcodes.of_mapM
  have hothers : ∃ constants, texts = codes.map String.join ++ methods ++ constants ∧
      ∀ text ∈ constants, ∃ constant ∈ module.constants,
        Returns (constantCode (Speller.remembering scope) constant) text := by
    dsimp only at h
    split at h
    · obtain ⟨constants, hconstants, h⟩ := h.of_bind
      exact ⟨constants, h.of_pure.symm, fun text htext =>
        exists_of_forall₂_left hconstants.of_mapM.flip htext⟩
    · obtain ⟨constants, hconstants, h⟩ := h.of_bind
      obtain rfl := hconstants.of_pure
      exact ⟨[], h.of_pure.symm, by simp⟩
  obtain ⟨constants, rfl, hconstants⟩ := hothers
  refine ⟨declared, methods ++ constants, ?_, fun text htext => ?_, hnames⟩
  · rw [hdeclared, List.append_assoc]
  · rcases List.mem_append.1 htext with htext | htext
    · exact .inl (exists_of_forall₂_left hmethods.of_mapM.flip htext)
    · exact .inr (hconstants text htext)

/-- The file of a module declares the types of its records, and they have the names of the
chains. -/
theorem exists_declared_of_generate [Limits] {config : Config} {workingDirectory : List String}
    {records : RecordMap} {module : Module} {file : SourceFile} {s s' : Session}
    (hrun : (SourceFile.generate config workingDirectory records module).run.run s = (.ok file, s'))
    (hmodule : NestedRecords module) :
    ∃ indentUnit path preamble declared others,
      module.path = .str path ∧
      preambleCode config workingDirectory path (module.imports.map (·.1)) = .ok preamble ∧
      LaidOut config indentUnit path (preamble :: (declared.map recordText ++ others)) file ∧
      IsOtherCode ⟨records, .str path⟩ module others ∧
      List.Forall₂ (DeclaresTypes ⟨records, .str path⟩) module.records declared ∧
      declared.flatten.map TypeDeclaration.name =
        (module.records.flatMap typeChains).map "_".intercalate := by
  obtain ⟨indentUnit, path, fragments, between, after, -, hpath, -, hfragments, hlaid⟩ :=
    SourceFile.of_generate hrun
  obtain ⟨preamble, hpreamble, h⟩ := Returns.of_bind ⟨between, after, hfragments⟩
  obtain ⟨texts, htexts, h⟩ := h.of_bind
  obtain rfl := h.of_pure
  obtain ⟨declared, others, rfl, hothers, hdeclared⟩ := exists_declared hmodule.variants htexts
  refine ⟨indentUnit, path, preamble, declared, others, hpath,
    mapError_eq_ok_iff.1 hpreamble.of_lift, hlaid, hothers, hdeclared,
    names_of_declared (fun r hr => ?_) hdeclared⟩
  exact ⟨chain_ne_nil hmodule hr, className_eq_intercalate hmodule hpath hr⟩

/-- The types that the file of a module declares have different names exactly if the constants of
each of its enums have different words, and no record is nested in an enum under the name of the
class of a variant. -/
theorem type_names_distinct_iff [Limits] {config : Config} {workingDirectory : List String}
    {records : RecordMap} {module : Module} {file : SourceFile} {s s' : Session}
    (hrun : (SourceFile.generate config workingDirectory records module).run.run s = (.ok file, s'))
    (hmodule : NestedRecords module) :
    ∃ indentUnit path preamble declared others,
      module.path = .str path ∧
      preambleCode config workingDirectory path (module.imports.map (·.1)) = .ok preamble ∧
      LaidOut config indentUnit path (preamble :: (declared.map recordText ++ others)) file ∧
      IsOtherCode ⟨records, .str path⟩ module others ∧
      List.Forall₂ (DeclaresTypes ⟨records, .str path⟩) module.records declared ∧
      ((declared.flatten.map TypeDeclaration.name).Nodup ↔ ApartTypes module.records) := by
  obtain ⟨indentUnit, path, preamble, declared, others, hpath, hpreamble, hlaid, hothers, hdeclared,
    hnames⟩ := exists_declared_of_generate hrun hmodule
  refine ⟨indentUnit, path, preamble, declared, others, hpath, hpreamble, hlaid, hothers,
    hdeclared, ?_⟩
  rw [hnames, nodup_typeNames_iff hmodule]

/-- An enum of plants. -/
def plantRecord : Record where
  key := "Plant"
  name := .str "Plant"
  kind := .enum
  fields := [{ name := .str "FLOWER", number := 1 }, { name := .str "TALL_TREE", number := 2 },
    { name := .str "height", number := 3, type := some (.primitive .float32) }]
  ancestors := [.str "Plant"]
  modulePath := .str "plant.soia"

/-- A struct that is nested in the enum of plants. -/
def plantPart (name : String) : Record where
  key := "Plant." ++ name
  name := .str name
  kind := .struct
  ancestors := [.str "Plant", .str name]
  modulePath := .str "plant.soia"

def plantRecords (name : String) : RecordMap :=
  [("Plant", plantRecord), ("Plant." ++ name, plantPart name)]

def plantModule (name : String) : Module :=
  { path := .str "plant.soia", records := [plantRecord, plantPart name] }

section

attribute [local instance] Limits.usual

theorem exists_plantFile {name : String}
    (hrecords : ∀ entry ∈ plantRecords name, WellFormedRecord (plantRecords name) entry.2)
    (hmodule : WellFormedModule (plantRecords name) (plantModule name)) :
    ∃ file s', (SourceFile.generate {} [] (plantRecords name) (plantModule name)).run.run {} =
      (.ok file, s') := by
  obtain ⟨file, s', hrun, -⟩ :=
    exists_generate (SoundConfig.of_validate (by decide)) indentFits_default hrecords hmodule
    (fun _ _ => .inr (List.forall_mem_nil _)) namesSound_empty
  exact ⟨file, s', hrun⟩

theorem seed_names_distinct : NestedRecords (plantModule "Seed") ∧
    ∃ file s' indentUnit path preamble declared others,
      (SourceFile.generate {} [] (plantRecords "Seed") (plantModule "Seed")).run.run
      {} = (.ok file, s') ∧
      LaidOut {} indentUnit path (preamble :: (declared.map recordText ++ others)) file ∧
      List.Forall₂ (DeclaresTypes ⟨plantRecords "Seed", .str path⟩)
        (plantModule "Seed").records declared ∧
      (declared.flatten.map TypeDeclaration.name).Nodup := by
  have hnested : NestedRecords (plantModule "Seed") :=
    ⟨by decide, by decide, by decide, by decide, by decide⟩
  obtain ⟨file, s', hrun⟩ := @exists_plantFile "Seed" (by decide) (by decide)
  obtain ⟨indentUnit, path, preamble, declared, others, -, -, hlaid, -, hdeclared, hiff⟩ :=
    type_names_distinct_iff hrun hnested
  exact ⟨hnested, file, s', indentUnit, path, preamble, declared, others, hrun, hlaid, hdeclared,
    hiff.2 ⟨by decide, by decide⟩⟩

/-- A record that is nested in an enum may have the name of the class of a variant. -/
theorem nested_record_redeclares_variant : NestedRecords (plantModule "FlowerConst") ∧
    ∃ file s' indentUnit path preamble others, ∃ declared : List (List TypeDeclaration),
      (SourceFile.generate {} [] (plantRecords "FlowerConst")
        (plantModule "FlowerConst")).run.run {} = (.ok file, s') ∧
      LaidOut {} indentUnit path (preamble :: (declared.map recordText ++ others)) file ∧
      declared.flatten.map TypeDeclaration.name =
        ["Plant", "Plant_unknown", "Plant_FlowerConst", "Plant_TallTreeConst",
          "Plant_HeightWrapper",
         "Plant_kind", "Plant_FlowerConst_orMutable", "Plant_FlowerConst",
           "Plant_FlowerConst_mutable"] := by
  have hnested : NestedRecords (plantModule "FlowerConst") :=
    ⟨by decide, by decide, by decide, by decide, by decide⟩
  obtain ⟨file, s', hrun⟩ := @exists_plantFile "FlowerConst" (by decide) (by decide)
  obtain ⟨indentUnit, path, preamble, declared, others, -, -, hlaid, -, -, hnames⟩ :=
    exists_declared_of_generate hrun hnested
  exact ⟨hnested, file, s', indentUnit, path, preamble, others, declared, hrun, hlaid,
    hnames.trans (by decide)⟩

end

end DartRecords.Dart
