import DartRecords.Proofs.TypeNames

/-!
# Classes of records

In the file of a module, a record goes by the name of its frozen class: the names that lead to the
record, joined by underscores, and for a record of another module the alias of that module before
them.  No alias has a point, and no name that leads to a record has a point or an underscore.  So
the name of the class tells the alias, if there is one, and the names that lead to the record.

An alias does not tell the module.  It has an underscore for every slash and every hyphen of the
path, so two modules have the same alias exactly if their paths differ in these characters and
underscores only (`moduleAlias_eq_iff`).  Records with the same name in two such modules have the
same class in the file of a third one, and there are no others (`class_names_equal_iff`).
-/

namespace DartRecords.Dart

open Naming (WordChars isWordChar)
open Schema (Record)

/-! ## Aliases -/

/-- The path of a schema file: before the extension there are only letters, digits, underscores,
hyphens and slashes. -/
def IsSchemaPath (path : String) : Prop :=
  ∃ stem, path = stem ++ ".soia" ∧ ∀ c ∈ stem.toList, isWordChar c = true ∨ c = '-' ∨ c = '/'

/-- What an alias has for a character of a path. -/
def aliasChar (c : Char) : Char := if c = '/' || c = '-' then '_' else c

/-- The paths differ in slashes, hyphens and underscores only. -/
def AlikePaths (path other : String) : Prop :=
  path.toList.map aliasChar = other.toList.map aliasChar

theorem markExternal_eq_self {path : List Char} (h : '@' ∉ path) : markExternal path = path := by
  fun_cases markExternal path with
  | case1 rest => exact absurd List.mem_cons_self h
  | case2 => rfl

theorem moduleAlias_append {stem : String}
    (h : ∀ c ∈ stem.toList, isWordChar c = true ∨ c = '-' ∨ c = '/') :
    moduleAlias (stem ++ ".soia") = "_lib_" ++ String.ofList (stem.toList.map aliasChar) := by
  have htext : (stem ++ ".soia").toList = stem.toList ++ schemaExtension := String.toList_append
  have hexternal : '@' ∉ stem.toList := fun hmem => absurd (h _ hmem) (by decide)
  simp only [moduleAlias, htext, replaceExtension_append, List.append_nil,
    markExternal_eq_self hexternal]
  rfl

/-- Two modules have the same alias exactly if their paths are alike. -/
theorem moduleAlias_eq_iff {path other : String} (hpath : IsSchemaPath path)
    (hother : IsSchemaPath other) :
    moduleAlias path = moduleAlias other ↔ AlikePaths path other := by
  obtain ⟨stem, rfl, hstem⟩ := hpath
  obtain ⟨stem', rfl, hstem'⟩ := hother
  rw [moduleAlias_append hstem, moduleAlias_append hstem', String.append_right_inj,
    String.ofList_inj, AlikePaths, String.toList_append, String.toList_append, List.map_append,
    List.map_append, List.append_cancel_right_eq]

theorem point_notMem_moduleAlias {path : String} (h : IsSchemaPath path) :
    '.' ∉ (moduleAlias path).toList := by
  obtain ⟨stem, rfl, hstem⟩ := h
  rw [moduleAlias_append hstem, String.toList_append, List.mem_append, not_or]
  refine ⟨by decide, fun hmem => ?_⟩
  rw [String.toList_ofList] at hmem
  obtain ⟨c, hc, hpoint⟩ := List.mem_map.1 hmem
  rw [aliasChar] at hpoint
  split at hpoint
  · cases hpoint
  · subst hpoint
    exact absurd (hstem _ hc) (by decide)

/-! ## Names that lead to a record -/

theorem wordChars_of_isClassText {text : List Char} (h : isClassText text = true) :
    WordChars text := by
  cases text with
  | nil => cases h
  | cons c rest =>
    obtain ⟨hc, hrest⟩ := Bool.and_eq_true_iff.1 h
    refine ⟨List.cons_ne_nil _ _, List.forall_mem_cons.2 ⟨Naming.isWordChar_of_isUpper hc, ?_⟩⟩
    intro d hd
    rw [isWordChar, List.all_eq_true.1 hrest d hd, Bool.true_or]

section ClassTexts

variable {parts others : List String} (hparts : ∀ part ∈ parts, isClassText part.toList = true)

include hparts

theorem point_notMem_intercalate : '.' ∉ ("_".intercalate parts).toList := by
  cases parts with
  | nil => exact List.not_mem_nil
  | cons first rest =>
    have hword := isWord_intercalate (List.cons_ne_nil first rest) fun part hpart =>
      wordChars_of_isClassText (hparts part hpart)
    exact fun hmem => absurd (hword.2 _ hmem) (by decide)

theorem intercalate_ne_empty_of_classTexts (hne : parts ≠ []) : "_".intercalate parts ≠ "" := by
  have hword :=
    isWord_intercalate hne fun part hpart => wordChars_of_isClassText (hparts part hpart)
  intro hempty
  rw [hempty] at hword
  exact hword.1 rfl

/-- Names of classes are determined by the text that joins them, also where there are none. -/
theorem classTexts_inj (hothers : ∀ part ∈ others, isClassText part.toList = true) :
    "_".intercalate parts = "_".intercalate others ↔ parts = others := by
  refine ⟨fun hsame => ?_, congrArg _⟩
  by_cases hne : parts = []
  · by_contra hdiffer
    refine intercalate_ne_empty_of_classTexts hothers (fun hnil => hdiffer (hne.trans hnil.symm)) ?_
    rw [← hsame, hne, String.intercalate_nil]
  · by_cases hne' : others = []
    · rw [hne', String.intercalate_nil] at hsame
      exact absurd hsame (intercalate_ne_empty_of_classTexts hparts hne)
    · refine intercalate_inj ?_ ?_ hne hne' hsame
      · exact fun part hpart => underscore_notMem_classText (hparts part hpart)
      · exact fun part hpart => underscore_notMem_classText (hothers part hpart)

end ClassTexts

/-! ## Class names -/

/-- The record stands in the schema file of a path, and names of classes lead to it. -/
structure LocatedAt (r : Record) (path : String) : Prop where
  modulePath : r.modulePath = .str path
  schema : IsSchemaPath path
  named : ∀ name ∈ r.ancestors, isClassName name = true

theorem same_str_iff {path : String} {origin : Json} :
    (Json.str path).same origin = true ↔ Json.str path = origin := by
  cases origin <;> simp [Json.same, Json.sameScalar, Json.sameNumber]

section ClassNames

variable {r s : Record} {path other : String} (hr : LocatedAt r path) (hs : LocatedAt s other)

include hr

theorem LocatedAt.className_eq (scope : Scope) :
    scope.className r = .ok (if Json.str path = scope.origin then "_".intercalate (chain r)
      else moduleAlias path ++ "." ++ "_".intercalate (chain r)) := by
  rw [Dart.className_eq (ancestors_eq hr.named).1 hr.modulePath]
  exact congrArg _ (if_congr same_str_iff rfl rfl)

theorem LocatedAt.point_notMem : '.' ∉ ("_".intercalate (chain r)).toList :=
  point_notMem_intercalate (ancestors_eq hr.named).2

/-- A name with an alias is not one without. -/
theorem LocatedAt.qualified_ne (qualifier name : String) :
    qualifier ++ "." ++ name ≠ "_".intercalate (chain r) := by
  intro hsame
  refine hr.point_notMem ?_
  rw [← hsame, String.toList_append, String.toList_append]
  simp

include hs

theorem LocatedAt.chain_inj :
    "_".intercalate (chain r) = "_".intercalate (chain s) ↔ r.ancestors = s.ancestors := by
  rw [classTexts_inj (ancestors_eq hr.named).2 (ancestors_eq hs.named).2]
  refine ⟨fun hsame => ?_, fun hsame => by rw [chain, chain, hsame]⟩
  rw [(ancestors_eq hr.named).1, (ancestors_eq hs.named).1, hsame]

/-- A name with an alias tells the alias and the names that lead to the record. -/
theorem LocatedAt.qualified_inj :
    moduleAlias path ++ "." ++ "_".intercalate (chain r) =
        moduleAlias other ++ "." ++ "_".intercalate (chain s) ↔
      moduleAlias path = moduleAlias other ∧ r.ancestors = s.ancestors := by
  have hlist (first second : String) :
      (first ++ "." ++ second).toList = first.toList ++ '.' :: second.toList := by
    simp [String.toList_append]
  rw [← String.toList_inj, hlist, hlist, List.append_cons_inj_of_notMem
    (point_notMem_moduleAlias hr.schema) hr.point_notMem]
  simp only [true_and, String.toList_inj, hr.chain_inj hs]

end ClassNames

/-- In the file of a module, two records have the same class name exactly if the same names lead to
them and they are in one module, or in two others of which the paths are alike. -/
theorem class_names_equal_iff {r s : Record} {path other : String} (hr : LocatedAt r path)
    (hs : LocatedAt s other) (scope : Scope) :
    ∃ first second, scope.className r = .ok first ∧ scope.className s = .ok second ∧
      (first = second ↔ r.ancestors = s.ancestors ∧
        (path = other ∨
          Json.str path ≠ scope.origin ∧ Json.str other ≠ scope.origin ∧
          AlikePaths path other)) := by
  refine ⟨_, _, hr.className_eq scope, hs.className_eq scope, ?_⟩
  by_cases hown : Json.str path = scope.origin
  · by_cases hown' : Json.str other = scope.origin
    · have hpath : path = other := Json.str.inj (hown.trans hown'.symm)
      rw [if_pos hown, if_pos hown', hr.chain_inj hs]
      simp [hpath]
    · have hpath : path ≠ other := fun h => hown' (h ▸ hown)
      rw [if_pos hown, if_neg hown']
      refine iff_of_false (hr.qualified_ne _ _).symm ?_
      simp [hpath, hown]
  · by_cases hown' : Json.str other = scope.origin
    · have hpath : path ≠ other := fun h => hown (h ▸ hown')
      rw [if_neg hown, if_pos hown']
      refine iff_of_false (hs.qualified_ne _ _) ?_
      simp [hpath, hown']
    · rw [if_neg hown, if_neg hown', hr.qualified_inj hs,
        moduleAlias_eq_iff hr.schema hs.schema, and_comm]
      refine and_congr_right fun _ => ⟨fun halike => .inr ⟨hown, hown', halike⟩, ?_⟩
      rintro (rfl | ⟨-, -, halike⟩)
      · rfl
      · exact halike

/-- A struct that is nested in a panel. -/
def gaugeRecord (path : String) : Record where
  key := path ++ ":Panel.Gauge"
  name := .str "Gauge"
  kind := .struct
  ancestors := [.str "Panel", .str "Gauge"]
  modulePath := .str path

theorem locatedAt_gauge {stem : String}
    (h : stem.toList.all fun c => isWordChar c || c = '-' || c = '/') :
    LocatedAt (gaugeRecord (stem ++ ".soia")) (stem ++ ".soia") where
  modulePath := rfl
  schema := ⟨stem, rfl, fun c hc => by simpa [or_assoc] using List.all_eq_true.1 h c hc⟩
  named := (by decide : ∀ name ∈ [Json.str "Panel", Json.str "Gauge"], isClassName name = true)

/-- The gauges of two modules with different names are told apart. -/
theorem gauges_differ : LocatedAt (gaugeRecord "car/panel.soia") "car/panel.soia" ∧
    LocatedAt (gaugeRecord "car/panel-2.soia") "car/panel-2.soia" ∧ ∃ first second,
    (⟨[], .str "main.soia"⟩ : Scope).className (gaugeRecord "car/panel.soia") = .ok first ∧
    (⟨[], .str "main.soia"⟩ : Scope).className (gaugeRecord "car/panel-2.soia") = .ok second ∧
    first ≠ second := by
  have hfirst : LocatedAt (gaugeRecord "car/panel.soia") "car/panel.soia" :=
    @locatedAt_gauge "car/panel" (by decide)
  have hsecond : LocatedAt (gaugeRecord "car/panel-2.soia") "car/panel-2.soia" :=
    @locatedAt_gauge "car/panel-2" (by decide)
  obtain ⟨first, second, hname, hname', hiff⟩ :=
    class_names_equal_iff hfirst hsecond ⟨[], .str "main.soia"⟩
  refine ⟨hfirst, hsecond, first, second, hname, hname', fun hsame => ?_⟩
  obtain ⟨-, hpath | ⟨-, -, halike⟩⟩ := hiff.1 hsame
  · revert hpath
    decide
  · revert halike
    rw [AlikePaths]
    decide

/-- A slash and a hyphen make two modules, but one alias. -/
theorem gauges_share_class : LocatedAt (gaugeRecord "car/panel.soia") "car/panel.soia" ∧
    LocatedAt (gaugeRecord "car-panel.soia") "car-panel.soia" ∧
    (gaugeRecord "car/panel.soia").modulePath ≠ (gaugeRecord "car-panel.soia").modulePath ∧
    (⟨[], .str "main.soia"⟩ : Scope).className (gaugeRecord "car/panel.soia") =
      .ok "_lib_car_panel.Panel_Gauge" ∧
    (⟨[], .str "main.soia"⟩ : Scope).className (gaugeRecord "car-panel.soia") =
      .ok "_lib_car_panel.Panel_Gauge" :=
  ⟨@locatedAt_gauge "car/panel" (by decide), @locatedAt_gauge "car-panel" (by decide),
    by decide, rfl, rfl⟩

end DartRecords.Dart
