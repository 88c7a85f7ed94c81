import DartRecords.Proofs.ModulePaths

/-!
# Resolving relative paths

`normalise` gives the shortest text of a relative path, and `resolve` what a path names when it is
seen from a directory.  The names between two places lead from the one to the other
(`resolve_between`), and whatever a path ends with after its last slash is still there when it is
resolved (`exists_resolve_append`).
-/

namespace DartRecords.Path

/-! ## Definitions -/

/-- Follows names like `follow`, but from a place that is only known from some point on: a step back
from there stays. -/
def retrace : List String → List String → List String
  | place, [] => place
  | place, name :: rest =>
    if name = "" || name = "." then retrace place rest
    else if name = ".." && place.head?.any (· ≠ "..") then retrace place.tail rest
    else retrace (name :: place) rest

/-- The shortest text of a relative path. -/
def normalise (path : String) : String :=
  toString ⟨"", (retrace [] (splitSlashes path)).reverse⟩

/-- What a relative path names from a directory. -/
def resolve (directory path : String) : String :=
  normalise (if directory = "" then path else directory ++ "/" ++ path)

/-- The name is that of a file or a directory. -/
structure IsPlain (name : String) : Prop where
  ne_empty : name ≠ ""
  ne_here : name ≠ "."
  ne_up : name ≠ ".."
  slash : '/' ∉ name.toList

/-- A name is plain if its second part has more than points in it. -/
theorem IsPlain.append {first last : String} {c : Char} (hfirst : '/' ∉ first.toList)
    (hlast : '/' ∉ last.toList) (hc : c ∈ last.toList) (hpoint : c ≠ '.') :
    IsPlain (first ++ last) := by
  have hmem : c ∈ (first ++ last).toList := by
    rw [String.toList_append]
    exact List.mem_append_right _ hc
  refine ⟨fun h => ?_, fun h => ?_, fun h => ?_, ?_⟩
  · rw [h] at hmem
    simp at hmem
  · rw [h] at hmem
    simp [hpoint] at hmem
  · rw [h] at hmem
    simp [hpoint] at hmem
  · rw [String.toList_append, List.mem_append, not_or]
    exact ⟨hfirst, hlast⟩

/-! ## Names and texts -/

theorem splitSlashes_eq (path : String) :
    splitSlashes path = (path.toList.splitOn '/').map String.ofList := by
  rw [splitSlashes, splitAt_eq_splitOnP, List.splitOn_eq_splitOnP]
  rfl

theorem splitSlashes_ne_nil (path : String) : splitSlashes path ≠ [] := by
  rw [splitSlashes_eq, ne_eq, List.map_eq_nil_iff]
  exact List.splitOn_ne_nil _ _

theorem slash_not_mem {path name : String} (h : name ∈ splitSlashes path) : '/' ∉ name.toList := by
  obtain ⟨part, hpart, rfl⟩ := List.mem_map.1 h
  rw [splitAt_eq_splitOnP] at hpart
  intro hmem
  rw [String.toList_ofList] at hmem
  simpa using (of_mem_splitOnP hpart hmem).2

theorem intercalate_splitSlashes (path : String) : "/".intercalate (splitSlashes path) = path := by
  have hslash : "/".toList = ['/'] := by decide
  have hparts : ∀ parts : List (List Char),
      (parts.map String.ofList).map String.toList = parts := by
    simp
  rw [← String.toList_inj, String.toList_intercalate, splitSlashes_eq, hparts, hslash]
  exact List.intercalate_splitOn '/'

theorem splitSlashes_intercalate {names : List String} (hne : names ≠ [])
    (h : ∀ name ∈ names, '/' ∉ name.toList) : splitSlashes ("/".intercalate names) = names := by
  have hslash : "/".toList = ['/'] := by decide
  have hparts : ∀ part ∈ names.map String.toList, '/' ∉ part := by
    simpa using h
  rw [splitSlashes_eq, String.toList_intercalate, hslash,
    List.splitOn_intercalate '/' hparts (by simpa using hne)]
  simp

theorem splitSlashes_append_slash (first second : String) :
    splitSlashes (first ++ "/" ++ second) = splitSlashes first ++ splitSlashes second := by
  have hslash : "/".toList = ['/'] := by decide
  have htext : (first ++ "/" ++ second).toList = first.toList ++ '/' :: second.toList := by
    rw [String.toList_append, String.toList_append, hslash, List.append_assoc]
    rfl
  simp only [splitSlashes, splitAt_eq_splitOnP, htext]
  rw [@List.splitOnP_append_cons _ (· = '/') first.toList second.toList '/' rfl, List.map_append]

/-- What follows the last name follows the whole text. -/
theorem intercalate_concat (names : List String) (first second : String) :
    "/".intercalate (names ++ [first ++ second]) =
      "/".intercalate (names ++ [first]) ++ second := by
  cases names with
  | nil => simp
  | cons name names =>
    rw [String.intercalate_append_of_ne_nil (by simp) (by simp),
      String.intercalate_append_of_ne_nil (by simp) (by simp), String.intercalate_singleton,
      String.intercalate_singleton]
    simp only [String.append_assoc]

/-- A text without slashes becomes part of the last name. -/
theorem splitSlashes_append {path tail : String} (htail : '/' ∉ tail.toList) :
    ∃ names last, '/' ∉ last.toList ∧ (∀ name ∈ names, '/' ∉ name.toList) ∧
      splitSlashes (path ++ tail) = names ++ [last ++ tail] := by
  obtain ⟨names, last, hnames⟩ : ∃ names last, splitSlashes path = names ++ [last] :=
    ⟨_, _, (List.dropLast_concat_getLast (splitSlashes_ne_nil path)).symm⟩
  have hslash : ∀ name ∈ names ++ [last], '/' ∉ name.toList := fun name hname =>
    slash_not_mem (hnames ▸ hname)
  have hlast : '/' ∉ last.toList := hslash last (by simp)
  have hinit : ∀ name ∈ names, '/' ∉ name.toList := fun name hname => hslash name (by simp [hname])
  have hpath : path = "/".intercalate (names ++ [last]) := by
    rw [← hnames, intercalate_splitSlashes]
  refine ⟨names, last, hlast, hinit, ?_⟩
  rw [hpath, ← intercalate_concat]
  refine splitSlashes_intercalate (by simp) fun name hname => ?_
  rcases List.mem_append.1 hname with hname | hname
  · exact hinit name hname
  · rw [List.mem_singleton.1 hname, String.toList_append, List.mem_append, not_or]
    exact ⟨hlast, htail⟩

theorem intercalate_ne_empty {names : List String} (hne : names ≠ [])
    (h : ∀ name ∈ names, name ≠ "") : "/".intercalate names ≠ "" := by
  obtain ⟨name, rest, rfl⟩ := List.exists_cons_of_ne_nil hne
  have hname : name ≠ "" := h name List.mem_cons_self
  cases rest with
  | nil => rwa [String.intercalate_singleton]
  | cons next rest => simp [String.intercalate_cons_cons]

theorem toString_eq {names : List String} (h : "/".intercalate names ≠ "") :
    toString ⟨"", names⟩ = "/".intercalate names := by
  simp [toString, h]

/-! ## Directories -/

theorem rdropWhile_append {α : Type} {p : α → Bool} {tail : List α} (h : ∀ a ∈ tail, p a = true)
    (text : List α) : (text ++ tail).rdropWhile p = text.rdropWhile p := by
  have hreverse : ∀ a ∈ tail.reverse, p a = true := fun a ha => h a (List.mem_reverse.1 ha)
  rw [List.rdropWhile, List.reverse_append, List.dropWhile_append_of_pos hreverse]
  rfl

/-- Plain names end with a plain character. -/
theorem rdropWhile_slash_intercalate {names : List String} (h : ∀ name ∈ names, IsPlain name) :
    ("/".intercalate names).toList.rdropWhile (· = '/') = ("/".intercalate names).toList := by
  rcases List.eq_nil_or_concat' names with rfl | ⟨init, last, rfl⟩
  · rfl
  · have hlast : IsPlain last := h last (by simp)
    have hchars : last.toList ≠ [] := fun hnil => hlast.ne_empty (String.toList_eq_nil_iff.1 hnil)
    have htext : ("/".intercalate (init ++ [last])).toList =
        ("/".intercalate (init ++ [""])).toList ++ last.toList := by
      rw [← String.toList_append, ← intercalate_concat, String.empty_append]
    rw [htext]
    refine List.rdropWhile_eq_self_iff.2 fun hne => ?_
    rw [List.getLast_append_of_ne_nil hne hchars, decide_eq_true_eq]
    exact fun hslash => hlast.slash (hslash ▸ List.getLast_mem hchars)

theorem directoryOf_intercalate {names : List String} {last : String}
    (hnames : ∀ name ∈ names, IsPlain name) (hlast : '/' ∉ last.toList) :
    directoryOf ("/".intercalate (names ++ [last])) = "/".intercalate names := by
  have hdrop : ∀ c ∈ last.toList, (c ≠ '/' : Bool) = true := by
    intro c hc
    exact decide_eq_true fun hslash => hlast (hslash ▸ hc)
  rw [← String.toList_inj, toList_directoryOf]
  dsimp only
  by_cases hnil : names = []
  · subst hnil
    rw [List.nil_append, String.intercalate_singleton, List.rdropWhile_eq_nil_iff.2 hdrop]
    rfl
  · have hslash : "/".toList = ['/'] := by decide
    have htext : ("/".intercalate (names ++ [last])).toList =
        ("/".intercalate names).toList ++ ['/'] ++ last.toList := by
      rw [String.intercalate_append_of_ne_nil hnil (by simp), String.intercalate_singleton,
        String.toList_append, String.toList_append, hslash]
    have hhead : ("/".intercalate (names ++ [last])).toList.rdropWhile (· ≠ '/') =
        ("/".intercalate names).toList ++ ['/'] := by
      rw [htext, rdropWhile_append hdrop, List.rdropWhile_concat_neg _ _ _ (by decide)]
    have htrim : (("/".intercalate names).toList ++ ['/']).rdropWhile (· = '/') =
        ("/".intercalate names).toList := by
      rw [List.rdropWhile_concat_pos _ _ _ (by decide), rdropWhile_slash_intercalate hnames]
    have hne : "/".intercalate names ≠ "" :=
      intercalate_ne_empty hnil fun name hname => (hnames name hname).ne_empty
    rw [hhead, htrim, if_neg (by rwa [List.isEmpty_iff, String.toList_eq_nil_iff])]

theorem rootOf_intercalate {names : List String} (h : ∀ name ∈ names, IsPlain name) :
    rootOf ("/".intercalate names) = "" := by
  cases names with
  | nil => rfl
  | cons name rest =>
    have hname : IsPlain name := h name List.mem_cons_self
    obtain ⟨tail, htail⟩ : ∃ tail, "/".intercalate (name :: rest) = name ++ tail := by
      cases rest with
      | nil => exact ⟨"", by simp⟩
      | cons next rest => exact ⟨_, String.intercalate_cons_cons.trans String.append_assoc⟩
    obtain ⟨c, cs, hcs⟩ := List.exists_cons_of_ne_nil fun hnil =>
      hname.ne_empty (String.toList_eq_nil_iff.1 hnil)
    rw [rootOf_eq_empty_iff, htail, String.toList_append, hcs]
    intro hslash
    cases hslash
    exact hname.slash (hcs ▸ List.mem_cons_self)

theorem resolveNames_intercalate {names : List String} (h : ∀ name ∈ names, IsPlain name)
    (workingDirectory : List String) :
    resolveNames workingDirectory ("/".intercalate names) = workingDirectory ++ names := by
  by_cases hnil : names = []
  · have hempty : (splitSlashes "").filter (fun name => name ≠ "" && name ≠ ".") = [] := by decide
    rw [hnil, String.intercalate_nil, resolveNames_of_relative (by decide) (by decide), hempty]
  · have hsplit := splitSlashes_intercalate hnil fun name hname => (h name hname).slash
    have hup : ".." ∉ names := fun hup => (h _ hup).ne_up rfl
    have hkeep : names.filter (fun name => name ≠ "" && name ≠ ".") = names :=
      List.filter_eq_self.2 fun name hname => by
        simp [(h name hname).ne_empty, (h name hname).ne_here]
    rw [resolveNames_of_relative (rootOf_intercalate h) (hsplit.symm ▸ hup), hsplit, hkeep]

/-! ## Following names -/

theorem retrace_append (place first second : List String) :
    retrace place (first ++ second) = retrace (retrace place first) second := by
  fun_induction retrace place first with
  | case1 place => rfl
  | case2 place name rest h ih => rw [List.cons_append, retrace, if_pos h, ih]
  | case3 place name rest h hup ih => rw [List.cons_append, retrace, if_neg h, if_pos hup, ih]
  | case4 place name rest h hup ih => rw [List.cons_append, retrace, if_neg h, if_neg hup, ih]

/-- Plain names are all followed. -/
theorem retrace_plain {names : List String} (h : ∀ name ∈ names, IsPlain name)
    (place : List String) : retrace place names = names.reverse ++ place := by
  induction names generalizing place with
  | nil => rfl
  | cons name rest ih =>
    obtain ⟨hname, hrest⟩ := List.forall_mem_cons.1 h
    rw [retrace, if_neg (by simp [hname.ne_empty, hname.ne_here]), if_neg (by simp [hname.ne_up]),
      ih hrest, List.reverse_cons, List.append_assoc]
    rfl

/-- One step back for each of some plain names. -/
theorem retrace_up {names : List String} (h : ∀ name ∈ names, IsPlain name) (place : List String) :
    retrace (names ++ place) (names.map fun _ => "..") = place := by
  induction names with
  | nil => rfl
  | cons name rest ih =>
    obtain ⟨hname, hrest⟩ := List.forall_mem_cons.1 h
    rw [List.map_cons, retrace, if_neg (by decide), if_pos (by simp [hname.ne_up])]
    exact ih hrest

/-- The text of some names leads where they lead. -/
theorem retrace_intercalate {names : List String} (h : ∀ name ∈ names, '/' ∉ name.toList)
    (place : List String) :
    retrace place (splitSlashes ("/".intercalate names)) = retrace place names := by
  by_cases hnil : names = []
  · subst hnil
    rfl
  · rw [splitSlashes_intercalate hnil h]

theorem retrace_toString {names : List String} (h : ∀ name ∈ names, '/' ∉ name.toList)
    (place : List String) :
    retrace place (splitSlashes (toString ⟨"", names⟩)) = retrace place names := by
  rw [← retrace_intercalate h]
  by_cases hempty : "/".intercalate names = ""
  · simp only [toString, hempty]
    rfl
  · rw [toString_eq hempty]

theorem resolve_eq (directory path : String) :
    resolve directory path =
      toString ⟨"",
        (retrace (retrace [] (splitSlashes directory)) (splitSlashes path)).reverse⟩ := by
  rw [resolve, normalise]
  split
  · next h =>
    subst h
    rfl
  · rw [splitSlashes_append_slash, retrace_append]

/-- A name without slashes at the end of a path stays there, unless it is made of points. -/
theorem exists_resolve_append {tail : String} {c : Char} (htail : '/' ∉ tail.toList)
    (hc : c ∈ tail.toList) (hpoint : c ≠ '.') (directory path : String) :
    ∃ head, resolve directory (path ++ tail) = head ++ tail := by
  obtain ⟨names, last, hlast, -, hsplit⟩ := @splitSlashes_append path tail htail
  have hplain : IsPlain (last ++ tail) := IsPlain.append hlast htail hc hpoint
  rw [resolve_eq, hsplit, retrace_append, retrace_plain (by simpa using hplain)]
  generalize retrace _ names = place
  rw [List.reverse_append, List.reverse_reverse, toString_eq, intercalate_concat]
  · exact ⟨_, rfl⟩
  · rw [intercalate_concat]
    intro hempty
    rw [(String.append_eq_empty_iff.1 hempty).2] at hc
    simp at hc

/-! ## Names between two places -/

theorem dropCommon_eq (start target : List String) :
    ∃ common, start = common ++ (dropCommon start target).1 ∧
      target = common ++ (dropCommon start target).2 := by
  fun_induction dropCommon start target with
  | case1 start name target ih =>
    obtain ⟨common, hstart, htarget⟩ := ih
    exact ⟨name :: common, congrArg (name :: ·) hstart, congrArg (name :: ·) htarget⟩
  | case2 => exact ⟨[], rfl, rfl⟩
  | case3 => exact ⟨[], rfl, rfl⟩

/-- Steps back to the common part of two paths and the rest of the second one lead from the first
one to the second one. -/
theorem resolve_between {common up down : List String} (hup : ∀ name ∈ common ++ up, IsPlain name)
    (hdown : ∀ name ∈ common ++ down, IsPlain name) (hne : common ++ down ≠ []) {path : String}
    (hpath : ∀ place, retrace place (splitSlashes path) =
      retrace place (up.map (fun _ => "..") ++ down)) :
    resolve ("/".intercalate (common ++ up)) path = "/".intercalate (common ++ down) := by
  have hback : up.map (fun _ => "..") = up.reverse.map fun _ => ".." := by simp
  have hsteps : ∀ name ∈ up.reverse, IsPlain name := fun name hname =>
    hup name (List.mem_append_right _ (List.mem_reverse.1 hname))
  have hplace : retrace (retrace [] (splitSlashes ("/".intercalate (common ++ up))))
      (splitSlashes path) = (common ++ down).reverse := by
    rw [hpath, retrace_intercalate fun name hname => (hup name hname).slash, retrace_plain hup,
      List.append_nil, List.reverse_append, retrace_append, hback, retrace_up hsteps,
      retrace_plain fun name hname => hdown name (List.mem_append_right _ hname),
      List.reverse_append]
  rw [resolve_eq, hplace, List.reverse_reverse, toString_eq]
  exact intercalate_ne_empty hne fun name hname => (hdown name hname).ne_empty

example : resolve "a/b/c" "../.././d/e.dart" = "a/d/e.dart" := by decide

end DartRecords.Path
