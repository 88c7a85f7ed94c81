import DartRecords.Dart.SourceFile
import DartRecords.Proofs.Words
import Mathlib.Data.List.DropRight

/-!
# Paths of modules

A module path has no name that leads upwards, so a relative one stays below the working directory.
The path from the file of one module to that of another is made of the names of the imported path
and of steps upwards.  Names of the working directory appear in it only if the one module path is
absolute and the other is not (`mem_namesBetween_resolveNames`).  So an import keeps to its line
(`exists_importPath`).
-/

namespace DartRecords.Path

/-! ## Following names -/

theorem mem_follow {place names : List String} {name : String} (h : name ∈ follow place names) :
    name ∈ place ∨ name ∈ names := by
  induction names generalizing place with
  | nil => exact .inl h
  | cons next rest ih =>
    rw [follow] at h
    rw [List.mem_cons]
    split at h
    · exact (ih h).imp_right .inr
    · split at h
      · exact (ih h).imp List.mem_of_mem_tail .inr
      · rcases ih h with h | h
        · exact (List.mem_cons.1 h).elim (fun h => .inr (.inl h)) .inl
        · exact .inr (.inr h)

/-- Names that do not lead upwards are all followed. -/
theorem follow_eq {names : List String} (h : ".." ∉ names) (place : List String) :
    follow place names = (names.filter fun name => name ≠ "" && name ≠ ".").reverse ++ place := by
  induction names generalizing place with
  | nil => rfl
  | cons name rest ih =>
    rw [List.mem_cons, not_or] at h
    rw [follow, List.filter_cons]
    by_cases hdrop : name = "" ∨ name = "."
    · rw [if_pos (by simpa using hdrop), if_neg (by simpa using hdrop.resolve_left), ih h.2]
    · rw [if_neg (by simpa using hdrop), if_neg (Ne.symm h.1), if_pos (by simpa using hdrop),
        ih h.2, List.reverse_cons, List.append_assoc]
      rfl

theorem resolveNames_of_relative {path : String} (hroot : rootOf path = "")
    (hinside : ".." ∉ splitSlashes path) (workingDirectory : List String) :
    resolveNames workingDirectory path =
      workingDirectory ++ (splitSlashes path).filter fun name => name ≠ "" && name ≠ "." := by
  simp only [resolveNames]
  rw [if_pos hroot, follow_eq hinside]
  simp

theorem mem_resolveNames_of_absolute {workingDirectory : List String} {path name : String}
    (hroot : rootOf path ≠ "") (h : name ∈ resolveNames workingDirectory path) :
    name ∈ splitSlashes path := by
  simp only [resolveNames] at h
  rw [if_neg hroot, List.mem_reverse] at h
  exact (mem_follow h).elim (fun h => nomatch h) id

/-! ## Names between two places -/

theorem dropCommon_append (common start target : List String) :
    dropCommon (common ++ start) (common ++ target) = dropCommon start target := by
  induction common with
  | nil => rfl
  | cons name common ih => rw [List.cons_append, List.cons_append, dropCommon, if_pos rfl, ih]

theorem mem_of_mem_dropCommon {start target : List String} {name : String}
    (h : name ∈ (dropCommon start target).2) : name ∈ target := by
  fun_induction dropCommon start target with
  | case1 as name bs ih => exact List.mem_cons_of_mem _ (ih h)
  | case2 => exact h
  | case3 => exact h

theorem mem_namesBetween {start target : List String} {name : String}
    (h : name ∈ namesBetween start target) : name = ".." ∨ name ∈ target := by
  simp only [namesBetween, List.mem_append, List.mem_map] at h
  rcases h with ⟨_, -, h⟩ | h
  · exact .inl h.symm
  · exact .inr (mem_of_mem_dropCommon h)

theorem namesBetween_append (common start target : List String) :
    namesBetween (common ++ start) (common ++ target) = namesBetween start target := by
  simp only [namesBetween, dropCommon_append]

/-- The names that lead from a directory to a file. -/
theorem mem_namesBetween_resolveNames {workingDirectory : List String}
    {path directory name : String} (hpath : ".." ∉ splitSlashes path)
    (hdirectory : ".." ∉ splitSlashes directory)
    (h : name ∈ namesBetween (resolveNames workingDirectory directory)
      (resolveNames workingDirectory path)) :
    name = ".." ∨ name ∈ splitSlashes path ∨ rootOf directory ≠ "" ∧ name ∈ workingDirectory := by
  by_cases hroot : rootOf path = ""
  · rw [resolveNames_of_relative hroot hpath] at h
    by_cases hroot' : rootOf directory = ""
    · rw [resolveNames_of_relative hroot' hdirectory, namesBetween_append] at h
      exact (mem_namesBetween h).imp_right fun h => .inl (List.mem_filter.1 h).1
    · rcases mem_namesBetween h with h | h
      · exact .inl h
      · rcases List.mem_append.1 h with h | h
        · exact .inr (.inr ⟨hroot', h⟩)
        · exact .inr (.inl (List.mem_filter.1 h).1)
  · exact (mem_namesBetween h).imp_right fun h => .inl (mem_resolveNames_of_absolute hroot h)

/-! ## Directories -/

theorem rootOf_eq_empty_iff {path : String} : rootOf path = "" ↔ path.toList.head? ≠ some '/' := by
  rw [rootOf]
  split
  · next h => simp [h]
  · next h => simp [h]
  · next h => simp [h]
  · next hthree htwo hone =>
    refine iff_of_true rfl fun h => ?_
    obtain ⟨rest, hrest⟩ := List.head?_eq_some_iff.1 h
    exact hone rest hrest

/-- The directory of a path as it is computed: without the last name, then without the slashes. -/
theorem toList_directoryOf (path : String) :
    (directoryOf path).toList =
      let head := path.toList.rdropWhile (· ≠ '/')
      if (head.rdropWhile (· = '/')).isEmpty then head else head.rdropWhile (· = '/') := by
  rw [directoryOf, String.toList_ofList]
  rfl

theorem isPrefix_directoryOf (path : String) : (directoryOf path).toList <+: path.toList := by
  rw [toList_directoryOf]
  have hhead := List.rdropWhile_prefix (· ≠ '/') path.toList
  dsimp only
  split
  · exact hhead
  · have htrimmed := List.rdropWhile_prefix (· = '/') (path.toList.rdropWhile (· ≠ '/'))
    exact htrimmed.trans hhead

/-- A directory has slashes only, or the path goes on with a slash after it. -/
theorem directoryOf_cases (path : String) :
    (∀ c ∈ (directoryOf path).toList, c = '/') ∨
      ∃ rest, path.toList = (directoryOf path).toList ++ '/' :: rest := by
  rw [toList_directoryOf]
  dsimp only
  obtain ⟨base, hbase⟩ := List.rdropWhile_prefix (· ≠ '/') path.toList
  have hhead := @List.rdropWhile_last_not _ (· ≠ '/') path.toList
  generalize path.toList.rdropWhile (· ≠ '/') = head at hbase hhead
  split
  · next hslashes =>
    exact .inl (by simpa using List.rdropWhile_eq_nil_iff.1 (List.isEmpty_iff.1 hslashes))
  · next hne =>
    rw [List.isEmpty_iff] at hne
    have hsplit : head.rdropWhile (· = '/') ++
        (head.reverse.takeWhile (· = '/')).reverse = head := by
      rw [List.rdropWhile, ← List.reverse_append, List.takeWhile_append_dropWhile,
        List.reverse_reverse]
    have hlast := List.rdropWhile_last_not (· = '/') head hne
    cases hslashes : (head.reverse.takeWhile (· = '/')).reverse with
    | nil =>
      -- Nothing would be dropped, but the text up to the last slash ends with that slash.
      rw [hslashes, List.append_nil] at hsplit
      simp only [hsplit] at hne hlast
      exact absurd (by simpa using hhead hne) (by simpa using hlast)
    | cons c slashes =>
      have hmem : c ∈ head.reverse.takeWhile (· = '/') := by
        rw [← List.mem_reverse, hslashes]
        exact List.mem_cons_self
      have hc : c = '/' := by simpa using List.mem_takeWhile_imp hmem
      rw [hslashes, hc] at hsplit
      refine .inr ⟨slashes ++ base, ?_⟩
      rw [← List.cons_append, ← List.append_assoc, hsplit, hbase]

theorem rootOf_directoryOf {path : String} (h : rootOf path = "") :
    rootOf (directoryOf path) = "" := by
  rw [rootOf_eq_empty_iff] at h ⊢
  obtain ⟨rest, hrest⟩ := isPrefix_directoryOf path
  intro hslash
  rw [← hrest, List.head?_append, hslash] at h
  exact h rfl

/-- A directory does not lead upwards if its path does not. -/
theorem up_not_mem_directoryOf {path : String} (h : ".." ∉ splitSlashes path) :
    ".." ∉ splitSlashes (directoryOf path) := by
  intro hmem
  obtain ⟨part, hpart, hname⟩ := List.mem_map.1 hmem
  rw [splitAt_eq_splitOnP] at hpart
  rcases directoryOf_cases path with hslashes | ⟨rest, hrest⟩
  · have hpoint : '.' ∈ part := by
      rw [← @String.toList_ofList part, hname]
      decide
    exact absurd (hslashes '.' (of_mem_splitOnP hpart hpoint).1) (by decide)
  · refine h (List.mem_map.2 ⟨part, ?_, hname⟩)
    rw [splitAt_eq_splitOnP, hrest,
      @List.splitOnP_append_cons _ (· = '/') (directoryOf path).toList rest '/' rfl]
    exact List.mem_append_left _ hpart

end DartRecords.Path

namespace DartRecords.Dart

open Layout (Flat Inline)
open Naming (isWordChar)

/-! ## Module paths -/

/-- The character may stand in the path of a module. -/
def isPathChar (c : Char) : Bool := isWordChar c || ['-', '/', '.', '@'].contains c

/-- The text is the path of a module. -/
structure IsModulePath (path : String) : Prop where
  ne_empty : path ≠ ""
  chars : ∀ c ∈ path.toList, isPathChar c = true
  inside : ".." ∉ Path.splitSlashes path

instance (path : String) : Decidable (IsModulePath path) :=
  decidable_of_iff (path ≠ "" ∧ path.toList.all isPathChar = true ∧ ".." ∉ Path.splitSlashes path)
    ⟨fun h => ⟨h.1, List.all_eq_true.1 h.2.1, h.2.2⟩,
      fun h => ⟨h.1, List.all_eq_true.2 h.2, h.3⟩⟩

theorem replaceExtension_append (replacement stem : List Char) :
    replaceExtension replacement (stem ++ schemaExtension) = stem ++ replacement := by
  have hsuffix : schemaExtension.isSuffixOf (stem ++ schemaExtension) = true := by simp
  rw [replaceExtension, if_pos hsuffix]
  simp

theorem newline_not_mem_replaceExtension {replacement path : List Char}
    (hreplacement : '\n' ∉ replacement) (hpath : '\n' ∉ path) :
    '\n' ∉ replaceExtension replacement path := by
  rw [replaceExtension]
  split
  · rw [List.mem_append, not_or]
    exact ⟨fun hmem => hpath (List.mem_of_mem_take hmem), hreplacement⟩
  · split
    · next hsuffix =>
      have hmem : '\n' ∈ schemaExtension ++ ['\n'] := by simp
      exact absurd ((List.isSuffixOf_iff_suffix.1 hsuffix).subset hmem) hpath
    · exact hpath

theorem newline_not_mem_markExternal {path : List Char} (h : '\n' ∉ path) :
    '\n' ∉ markExternal path := by
  fun_cases markExternal path with
  | case1 rest =>
    have hexternal : '\n' ∉ "external/".toList := by decide
    exact fun hmem => (List.mem_append.1 hmem).elim hexternal fun hmem =>
      h (List.mem_cons_of_mem _ hmem)
  | case2 => exact h

theorem newline_not_mem_replaceFirst {needle replacement text : List Char}
    (hreplacement : '\n' ∉ replacement) (htext : '\n' ∉ text) :
    '\n' ∉ Text.replaceFirst needle replacement text := by
  induction text with
  | nil => exact htext
  | cons c rest ih =>
    rw [Text.replaceFirst]
    split
    · rw [List.mem_append, not_or]
      exact ⟨hreplacement, fun hmem => htext (List.mem_of_mem_drop hmem)⟩
    · rw [List.mem_cons, not_or] at htext ⊢
      exact ⟨htext.1, ih htext.2⟩

theorem flat_dartPath {path : String} (h : Flat path) : Flat (dartPath path) := by
  rw [Flat, dartPath, String.toList_ofList]
  exact newline_not_mem_replaceFirst (by decide) h

theorem flat_startWithPoint {path : String} (h : Flat path) : Flat (startWithPoint path) := by
  rw [startWithPoint]
  split
  · exact h
  · exact Flat.append (by decide) h

namespace IsModulePath

variable {path : String} (h : IsModulePath path)

include h

theorem flat : Flat path := fun hmem => absurd (h.chars _ hmem) (by decide)

theorem flat_of_mem {name : String} (hname : name ∈ Path.splitSlashes path) : Flat name := by
  obtain ⟨part, hpart, rfl⟩ := List.mem_map.1 hname
  rw [splitAt_eq_splitOnP] at hpart
  intro hmem
  rw [String.toList_ofList] at hmem
  exact h.flat (of_mem_splitOnP hpart hmem).1

/-- The alias of a module keeps to its line. -/
theorem inline_moduleAlias : Inline (moduleAlias path) := by
  have hlib : Inline "_lib_" := by decide
  refine hlib.append fun hmem => ?_
  rw [String.toList_ofList] at hmem
  obtain ⟨c, hc, hnewline⟩ := List.mem_map.1 hmem
  split at hnewline
  · cases hnewline
  · subst hnewline
    exact newline_not_mem_markExternal (newline_not_mem_replaceExtension (by decide) h.flat) hc

/-- The path by which one module imports another keeps to its line. -/
theorem exists_importPath {workingDirectory : List String}
    (hdirectory : Path.rootOf path = "" ∨ ∀ name ∈ workingDirectory, Flat name) {imported : String}
    (himported : IsModulePath imported) :
    ∃ text, importPath workingDirectory path imported = .ok text ∧ Flat text := by
  refine ⟨_, if_neg (by simpa using himported.ne_empty), ?_⟩
  refine flat_startWithPoint (flat_dartPath ?_)
  have hinside : ".." ∉ Path.splitSlashes (moduleDirectory path) := by
    simp only [moduleDirectory]
    split
    · decide
    · exact Path.up_not_mem_directoryOf h.inside
  have hroot : Path.rootOf path = "" → Path.rootOf (moduleDirectory path) = "" := by
    intro hroot
    simp only [moduleDirectory]
    split
    · decide
    · exact Path.rootOf_directoryOf hroot
  rw [Path.relativeTo]
  split
  · decide
  · refine Layout.flat_intercalate (by decide) fun name hname => ?_
    rcases Path.mem_namesBetween_resolveNames himported.inside hinside hname
      with rfl | hname | hname
    · decide
    · exact himported.flat_of_mem hname
    · exact hdirectory.elim (fun hrelative => absurd (hroot hrelative) hname.1) fun hflat =>
        hflat name hname.2

end IsModulePath

end DartRecords.Dart
