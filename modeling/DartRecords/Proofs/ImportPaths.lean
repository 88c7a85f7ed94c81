import DartRecords.Proofs.Emission
import DartRecords.Proofs.Resolution

/-!
# Where imports lead

The file of a module imports the files of other modules by relative paths.  Such a path is made from
the module paths, and the extension is replaced in it afterwards: not at its end, but where it
occurs first.  So an import leads to the file that is generated for the imported module exactly if
the extension occurs only once in the part of its path that the two modules do not share.

`resolve_import_lone`, `exists_resolve_import` and `resolve_import_enclosing` are the three cases:
the extension is only at the end, or also somewhere else, or there is no such part.
-/

namespace DartRecords.Text

variable {needle replacement text : List Char}

theorem replaceFirst_of_absent (h : ¬needle <:+: text) :
    replaceFirst needle replacement text = text := by
  induction text with
  | nil => rfl
  | cons c rest ih =>
    rw [List.infix_cons_iff, not_or] at h
    rw [replaceFirst, if_neg (by simpa using h.1), ih h.2]

/-- Nothing changes after an occurrence. -/
theorem replaceFirst_append (hne : needle ≠ []) (h : needle <:+: text) (tail : List Char) :
    replaceFirst needle replacement (text ++ tail) =
      replaceFirst needle replacement text ++ tail := by
  induction text with
  | nil => exact absurd (List.infix_nil.1 h) hne
  | cons c rest ih =>
    have hgrow : c :: rest <+: c :: (rest ++ tail) := ⟨tail, rfl⟩
    rw [List.cons_append, replaceFirst, replaceFirst]
    by_cases hstarts : needle <+: c :: rest
    · rw [if_pos (by simpa using hstarts.trans hgrow), if_pos (by simpa using hstarts),
        ← List.cons_append, List.drop_append_of_le_length hstarts.length_le, List.append_assoc]
    · have hrest : needle <:+: rest := (List.infix_cons_iff.1 h).resolve_left hstarts
      have hlength : needle.length ≤ (c :: rest).length := Nat.le_succ_of_le hrest.length_le
      have hstarts' : ¬needle <+: c :: (rest ++ tail) := fun hlong =>
        hstarts (List.prefix_of_prefix_length_le hlong hgrow hlength)
      rw [if_neg (by simpa using hstarts'), if_neg (by simpa using hstarts), ih hrest,
        List.cons_append]

end DartRecords.Text

namespace DartRecords.Dart

open DartRecords.Path (IsPlain)

/-! ## Paths of schema files -/

/-- The text is the relative path of a schema file, in its shortest form. -/
structure IsSourcePath (path : String) : Prop where
  names : ∀ name ∈ Path.splitSlashes path, name ≠ "" ∧ name ≠ "." ∧ name ≠ ".."
  extension : schemaExtension <:+ path.toList

instance (path : String) : Decidable (IsSourcePath path) :=
  decidable_of_iff ((∀ name ∈ Path.splitSlashes path, name ≠ "" ∧ name ≠ "." ∧ name ≠ "..") ∧
    schemaExtension <:+ path.toList) ⟨fun h => ⟨h.1, h.2⟩, fun h => ⟨h.1, h.2⟩⟩

/-- The names of the imported path that the directory of the other path does not share with it. -/
def namesBelow (path imported : String) : List String :=
  (Path.dropCommon (Path.splitSlashes path).dropLast (Path.splitSlashes imported)).2

/-- The text has the schema extension at its end and nowhere else. -/
def HasLoneExtension (text : String) : Prop :=
  ∃ stem, text = stem ++ ".soia" ∧ ¬schemaExtension <:+: stem.toList

/-- The names of the path of a schema file. -/
theorem IsSourcePath.exists_names {path : String} (h : IsSourcePath path) :
    ∃ names base, Path.splitSlashes path = names ++ [base ++ ".soia"] ∧
      (∀ name ∈ names, IsPlain name) ∧ '/' ∉ base.toList := by
  obtain ⟨stem, hstem⟩ := h.extension
  have hpath : path = String.ofList stem ++ ".soia" := by
    rw [← String.toList_inj, String.toList_append, String.toList_ofList, ← hstem]
    rfl
  obtain ⟨names, base, hbase, hslash, hsplit⟩ :=
    @Path.splitSlashes_append (String.ofList stem) ".soia" (by decide)
  rw [← hpath] at hsplit
  refine ⟨names, base, hsplit, fun name hname => ?_, hbase⟩
  obtain ⟨hempty, hhere, hup⟩ := h.names name (by simp [hsplit, hname])
  exact ⟨hempty, hhere, hup, hslash name hname⟩

theorem isPlain_extension {base extension : String} (hbase : '/' ∉ base.toList)
    (h : extension = ".soia" ∨ extension = ".dart") : IsPlain (base ++ extension) := by
  rcases h with rfl | rfl
  · exact IsPlain.append hbase (by decide) (show 'a' ∈ ".soia".toList by decide) (by decide)
  · exact IsPlain.append hbase (by decide) (show 'a' ∈ ".dart".toList by decide) (by decide)

theorem outputPath_append (stem : String) : outputPath (stem ++ ".soia") = stem ++ ".dart" := by
  have htext : (stem ++ ".soia").toList = stem.toList ++ schemaExtension := String.toList_append
  rw [← String.toList_inj, outputPath, String.toList_ofList, htext, replaceExtension_append,
    String.toList_append]

theorem outputPath_intercalate (names : List String) (base : String) :
    outputPath ("/".intercalate (names ++ [base ++ ".soia"])) =
      "/".intercalate (names ++ [base ++ ".dart"]) := by
  rw [Path.intercalate_concat, outputPath_append, Path.intercalate_concat]

/-! ## The first extension in a path -/

/-- The extension does not overlap itself. -/
theorem not_prefix_append_extension {stem : List Char} (hne : stem ≠ [])
    (h : ¬schemaExtension <:+: stem) : ¬schemaExtension <+: stem ++ schemaExtension := by
  have hextension : schemaExtension = '.' :: "soia".toList := by decide
  have hpoint : '.' ∉ "soia".toList := by decide
  rintro ⟨rest, hrest⟩
  rcases List.append_eq_append_iff.1 hrest with ⟨more, rfl, -⟩ | ⟨more, hstem, hmore⟩
  · exact h ⟨[], more, rfl⟩
  · obtain ⟨c, cs, rfl⟩ := List.exists_cons_of_ne_nil hne
    cases more with
    | nil =>
      rw [List.append_nil] at hstem
      exact h (hstem ▸ List.infix_rfl)
    | cons d more =>
      rw [hextension] at hstem hmore
      obtain ⟨rfl, -⟩ := List.cons.inj hmore
      obtain ⟨-, hsoia⟩ := List.cons.inj hstem
      exact hpoint (hsoia ▸ List.mem_append_right _ List.mem_cons_self)

theorem replaceFirst_extension {stem : List Char} (h : ¬schemaExtension <:+: stem)
    (replacement : List Char) :
    Text.replaceFirst schemaExtension replacement (stem ++ schemaExtension) =
      stem ++ replacement := by
  induction stem with
  | nil =>
    have hextension : schemaExtension = '.' :: "soia".toList := by decide
    rw [List.nil_append, List.nil_append, hextension, Text.replaceFirst, if_pos (by simp)]
    simp
  | cons c rest ih =>
    have hrest : ¬schemaExtension <:+: rest := fun hoccurs => h (List.infix_cons hoccurs)
    have hstarts := not_prefix_append_extension (List.cons_ne_nil c rest) h
    rw [List.cons_append] at hstarts ⊢
    rw [Text.replaceFirst, if_neg (by simpa using hstarts), ih hrest, List.cons_append]

theorem dartPath_of_lone {stem : String} (h : ¬schemaExtension <:+: stem.toList) :
    dartPath (stem ++ ".soia") = stem ++ ".dart" := by
  have htext : (stem ++ ".soia").toList = stem.toList ++ schemaExtension := String.toList_append
  rw [← String.toList_inj, dartPath, String.toList_ofList, htext, replaceFirst_extension h,
    String.toList_append]

theorem exists_dartPath_of_occurs {stem : String} (h : schemaExtension <:+: stem.toList) :
    ∃ head, dartPath (stem ++ ".soia") = head ++ ".soia" := by
  refine ⟨dartPath stem, ?_⟩
  simp only [← String.toList_inj, dartPath, String.toList_ofList, String.toList_append,
    Text.replaceFirst_append (show schemaExtension ≠ [] by decide) h]

theorem dartPath_of_absent {path : String} (h : ¬schemaExtension <:+: path.toList) :
    dartPath path = path := by
  rw [dartPath, Text.replaceFirst_of_absent h, String.ofList_toList]

/-- A step back has no extension. -/
theorem infix_up_iff (text : String) :
    schemaExtension <:+: (".." ++ "/" ++ text).toList ↔ schemaExtension <:+: text.toList := by
  have hextension : schemaExtension = '.' :: 's' :: "oia".toList := by decide
  have htext : (".." ++ "/" ++ text).toList = '.' :: '.' :: '/' :: text.toList := by
    rw [String.toList_append]
    rfl
  rw [htext, hextension]
  simp [List.infix_cons_iff]

theorem infix_ups_iff {names : List String} (hne : names ≠ []) (up : List String) :
    schemaExtension <:+: ("/".intercalate (up.map (fun _ => "..") ++ names)).toList ↔
      schemaExtension <:+: ("/".intercalate names).toList := by
  induction up with
  | nil => rfl
  | cons name up ih =>
    rw [List.map_cons, List.cons_append, String.intercalate_cons_of_ne_nil (by simp [hne]),
      infix_up_iff, ih]

/-! ## The path of an import -/

theorem retrace_startWithPoint (path : String) (place : List String) :
    Path.retrace place (Path.splitSlashes (startWithPoint path)) =
      Path.retrace place (Path.splitSlashes path) := by
  have hpoint : "./" = "." ++ "/" := by decide
  have hhere : Path.splitSlashes "." = ["."] := by decide
  rw [startWithPoint]
  split
  · rfl
  · rw [hpoint, Path.splitSlashes_append_slash, hhere]
    rfl

theorem exists_startWithPoint_append (path tail : String) :
    ∃ head, startWithPoint (path ++ tail) = head ++ tail := by
  rw [startWithPoint]
  split
  · exact ⟨path, rfl⟩
  · exact ⟨"./" ++ path, String.append_assoc.symm⟩

section Between

variable {common up below : List String} {base : String}

/-- The path from one directory to a file by steps back and names. -/
def importText (up down : List String) : String :=
  startWithPoint (dartPath (Path.toString ⟨"", up.map (fun _ => "..") ++ down⟩))

theorem toString_steps_append (up below : List String) (base : String) :
    Path.toString ⟨"", up.map (fun _ => "..") ++ (below ++ [base ++ ".soia"])⟩ =
      "/".intercalate (up.map (fun _ => "..") ++ (below ++ [base])) ++ ".soia" := by
  have htext := Path.intercalate_concat (up.map (fun _ => "..") ++ below) base ".soia"
  rw [List.append_assoc, List.append_assoc] at htext
  have hne : "/".intercalate (up.map (fun _ => "..") ++ (below ++ [base])) ++ ".soia" ≠ "" := by
    simp
  rw [← htext] at hne ⊢
  exact Path.toString_eq hne

theorem not_infix_steps (up : List String) :
    ¬schemaExtension <:+: (Path.toString ⟨"", up.map (fun _ => "..") ++ []⟩).toList := by
  rw [List.append_nil]
  rcases List.eq_nil_or_concat' up with rfl | ⟨others, last, rfl⟩
  · decide
  · have hsteps : ∀ name ∈ (others ++ [last]).map (fun _ => ".."), name ≠ "" := by
      intro name hname
      obtain ⟨-, -, rfl⟩ := List.mem_map.1 hname
      decide
    rw [Path.toString_eq (Path.intercalate_ne_empty (by simp) hsteps), List.map_append,
      List.map_singleton, infix_ups_iff (by simp)]
    decide

/-- With one extension in the names that are not shared, the import leads to the generated file. -/
theorem resolve_import_lone (hup : ∀ name ∈ common ++ up, IsPlain name)
    (hbelow : ∀ name ∈ common ++ below, IsPlain name) (hbase : '/' ∉ base.toList)
    (hlone : ¬schemaExtension <:+: ("/".intercalate (below ++ [base])).toList) :
    Path.resolve ("/".intercalate (common ++ up)) (importText up (below ++ [base ++ ".soia"])) =
      "/".intercalate (common ++ (below ++ [base ++ ".dart"])) := by
  have hfile : IsPlain (base ++ ".dart") := isPlain_extension hbase (.inr rfl)
  have hdown : ∀ name ∈ common ++ (below ++ [base ++ ".dart"]), IsPlain name := by
    rw [← List.append_assoc]
    exact List.forall_mem_append.2 ⟨hbelow, by simpa using hfile⟩
  have hslash : ∀ name ∈ up.map (fun _ => "..") ++ (below ++ [base ++ ".dart"]),
      '/' ∉ name.toList := by
    refine List.forall_mem_append.2 ⟨?_, fun name hname =>
      (hdown name (List.mem_append_right _ hname)).slash⟩
    simp
  have htext := Path.intercalate_concat (up.map (fun _ => "..") ++ below) base ".dart"
  rw [List.append_assoc, List.append_assoc] at htext
  refine Path.resolve_between hup hdown (by simp) fun place => ?_
  rw [importText, retrace_startWithPoint, toString_steps_append,
    dartPath_of_lone fun hoccurs => hlone ((infix_ups_iff (by simp) up).1 hoccurs), ← htext,
    Path.retrace_intercalate hslash]

/-- With another extension in these names, the one at the end stays. -/
theorem exists_resolve_import
    (hoccurs : schemaExtension <:+: ("/".intercalate (below ++ [base])).toList) (directory : String)
    (up : List String) :
    ∃ head, Path.resolve directory (importText up (below ++ [base ++ ".soia"])) =
      head ++ ".soia" := by
  obtain ⟨first, hfirst⟩ := exists_dartPath_of_occurs ((infix_ups_iff (by simp) up).2 hoccurs)
  obtain ⟨second, hsecond⟩ := exists_startWithPoint_append first ".soia"
  rw [importText, toString_steps_append, hfirst, hsecond]
  exact Path.exists_resolve_append (by decide) (show 'a' ∈ ".soia".toList by decide) (by decide) _ _

/-- A path that encloses that of the importing module leads to itself. -/
theorem resolve_import_enclosing (hup : ∀ name ∈ common ++ up, IsPlain name) (hne : common ≠ []) :
    Path.resolve ("/".intercalate (common ++ up)) (importText up []) = "/".intercalate common := by
  have hslash : ∀ name ∈ up.map (fun _ => "..") ++ [], '/' ∉ name.toList := by simp
  have hcommon : ∀ name ∈ common ++ [], IsPlain name := by
    rw [List.append_nil]
    exact fun name hname => hup name (List.mem_append_left _ hname)
  have hresolve := @Path.resolve_between common up [] hup hcommon (by simpa using hne)
    (importText up []) fun place => by
      rw [importText, retrace_startWithPoint, dartPath_of_absent (not_infix_steps up),
        Path.retrace_toString hslash]
  rwa [List.append_nil] at hresolve

end Between

theorem resolveNames_moduleDirectory {names : List String} {last : String}
    (hnames : ∀ name ∈ names, IsPlain name) (hlast : '/' ∉ last.toList)
    (workingDirectory : List String) :
    Path.resolveNames workingDirectory (moduleDirectory ("/".intercalate (names ++ [last]))) =
      workingDirectory ++ names := by
  simp only [moduleDirectory, Path.directoryOf_intercalate hnames hlast]
  split
  · next hempty =>
    have hnil : names = [] := by
      by_contra hne
      exact Path.intercalate_ne_empty hne (fun name hname => (hnames name hname).ne_empty)
        (String.isEmpty_iff.1 hempty)
    have hhere : (Path.splitSlashes ".").filter (fun name => name ≠ "" && name ≠ ".") = [] := by
      decide
    rw [Path.resolveNames_of_relative (by decide) (by decide), hhere, hnil]
  · exact Path.resolveNames_intercalate hnames workingDirectory

/-- The path of an import by the names of the two module paths; no name of the working directory
shows in it. -/
theorem importPath_eq {names imported : List String} {last : String}
    (hnames : ∀ name ∈ names, IsPlain name) (hlast : '/' ∉ last.toList)
    (himported : ∀ name ∈ imported, IsPlain name) (hne : imported ≠ [])
    (workingDirectory : List String) :
    importPath workingDirectory ("/".intercalate (names ++ [last])) ("/".intercalate imported) =
      .ok (importText (Path.dropCommon names imported).1 (Path.dropCommon names imported).2) := by
  have hpath : "/".intercalate imported ≠ "" :=
    Path.intercalate_ne_empty hne fun name hname => (himported name hname).ne_empty
  have hbetween : ∀ name ∈ Path.namesBetween names imported, name ≠ "" := by
    intro name hname
    rcases Path.mem_namesBetween hname with rfl | hname
    · decide
    · exact (himported name hname).ne_empty
  have hrelative : Path.relativeTo workingDirectory ("/".intercalate imported)
      (moduleDirectory ("/".intercalate (names ++ [last]))) =
        Path.toString ⟨"", Path.namesBetween names imported⟩ := by
    rw [Path.relativeTo, resolveNames_moduleDirectory hnames hlast,
      Path.resolveNames_intercalate himported, Path.namesBetween_append]
    split
    · next h =>
      rw [h]
      rfl
    · next hne => exact (Path.toString_eq (Path.intercalate_ne_empty hne hbetween)).symm
  rw [importPath, if_neg (by simpa using hpath), hrelative]
  rfl

theorem dart_ne_schema (first second : String) : first ++ ".dart" ≠ second ++ ".soia" := by
  intro h
  have htext := congrArg String.toList h
  have hlength : ".dart".toList.length = ".soia".toList.length := by decide
  rw [String.toList_append, String.toList_append] at htext
  exact absurd (List.append_inj_right' htext hlength) (by decide)

theorem hasLoneExtension_append_iff (stem : String) :
    HasLoneExtension (stem ++ ".soia") ↔ ¬schemaExtension <:+: stem.toList := by
  refine ⟨?_, fun h => ⟨stem, rfl, h⟩⟩
  rintro ⟨other, hother, h⟩
  rwa [(String.append_left_inj _).1 hother]

theorem not_hasLoneExtension_empty : ¬HasLoneExtension "" := by
  rintro ⟨stem, hstem, -⟩
  exact absurd (String.append_eq_empty_iff.1 hstem.symm).2 (by decide)

/-- An import leads to the file of the imported module exactly if the extension occurs once in the
names that the modules do not share. -/
theorem resolve_import_iff {common up down names : List String} {base : String}
    (hup : ∀ name ∈ common ++ up, IsPlain name) (hnames : ∀ name ∈ names, IsPlain name)
    (hbase : '/' ∉ base.toList) (htarget : names ++ [base ++ ".soia"] = common ++ down) :
    Path.resolve ("/".intercalate (common ++ up)) (importText up down) =
        "/".intercalate (names ++ [base ++ ".dart"]) ↔
      HasLoneExtension ("/".intercalate down) := by
  rcases List.eq_nil_or_concat' down with rfl | ⟨below, last, rfl⟩
  · rw [List.append_nil] at htarget
    subst htarget
    rw [resolve_import_enclosing hup (by simp), Path.intercalate_concat, Path.intercalate_concat]
    exact iff_of_false (dart_ne_schema _ _).symm not_hasLoneExtension_empty
  · rw [← List.append_assoc] at htarget
    obtain ⟨rfl, hlast⟩ := List.append_inj' htarget rfl
    cases hlast
    rw [Path.intercalate_concat below, hasLoneExtension_append_iff]
    by_cases hoccurs : schemaExtension <:+: ("/".intercalate (below ++ [base])).toList
    · obtain ⟨head, hhead⟩ := exists_resolve_import hoccurs ("/".intercalate (common ++ up)) up
      rw [hhead, Path.intercalate_concat]
      exact iff_of_false (dart_ne_schema _ _).symm (not_not_intro hoccurs)
    · rw [resolve_import_lone hup hnames hbase hoccurs, List.append_assoc]
      exact iff_of_true rfl hoccurs

theorem yields_importPath {path imported : String} (hpath : IsSourcePath path)
    (himported : IsSourcePath imported) (workingDirectory : List String) :
    Yields (importPath workingDirectory path imported) fun text =>
      Path.resolve (Path.directoryOf (outputPath path)) text = outputPath imported ↔
        HasLoneExtension ("/".intercalate (namesBelow path imported)) := by
  obtain ⟨names, base, hsplit, hnames, hbase⟩ := hpath.exists_names
  obtain ⟨names', base', hsplit', hnames', hbase'⟩ := himported.exists_names
  have hfile : '/' ∉ (base ++ ".soia").toList := (isPlain_extension hbase (.inl rfl)).slash
  have hall' : ∀ name ∈ names' ++ [base' ++ ".soia"], IsPlain name :=
    List.forall_mem_append.2 ⟨hnames', by simpa using isPlain_extension hbase' (.inl rfl)⟩
  have hdirectory : Path.directoryOf (outputPath path) = "/".intercalate names := by
    rw [← Path.intercalate_splitSlashes path, hsplit, outputPath_intercalate,
      Path.directoryOf_intercalate hnames (isPlain_extension hbase (.inr rfl)).slash]
  have houtput : outputPath imported = "/".intercalate (names' ++ [base' ++ ".dart"]) := by
    rw [← Path.intercalate_splitSlashes imported, hsplit', outputPath_intercalate]
  have hresult := importPath_eq hnames hfile hall' (by simp) workingDirectory
  rw [← hsplit, ← hsplit', Path.intercalate_splitSlashes, Path.intercalate_splitSlashes] at hresult
  refine ⟨_, hresult, ?_⟩
  obtain ⟨common, hstart, htarget⟩ := Path.dropCommon_eq names (names' ++ [base' ++ ".soia"])
  rw [hdirectory, houtput, namesBelow, hsplit, List.dropLast_concat, hsplit']
  generalize Path.dropCommon names (names' ++ [base' ++ ".soia"]) = parts at hstart htarget ⊢
  subst hstart
  exact resolve_import_iff hnames hnames' hbase' htarget

/-- The preamble of a module imports each other module under its alias.  The path of the import,
resolved in the directory of the file, is that of the file of the other module exactly if the schema
extension occurs once in the names of its path that the directory of the first module does not
share. -/
theorem imports_reach_files_iff {path : String} {imports : List String} (hpath : IsSourcePath path)
    (himports : ∀ imported ∈ imports, IsSourcePath imported) (config : Config)
    (workingDirectory : List String) :
    ∃ entries, preambleCode config workingDirectory path imports =
        .ok (Template.preambleText config.addBanner config.clientPackage entries) ∧
      List.Forall₂ (fun imported entry => entry.2 = moduleAlias imported ∧
        (Path.resolve (Path.directoryOf (outputPath path)) entry.1 = outputPath imported ↔
          HasLoneExtension ("/".intercalate (namesBelow path imported)))) imports entries :=
  preambleCode_eq (fun imported himported =>
    yields_importPath hpath (himports imported himported) workingDirectory) config

/-- The extension in a directory does no harm if the importing module is in that directory, too. -/
theorem shared_extension_reaches_files :
    let imports := ["x.soia/y.soia", "a/b.soia"]
    ∃ entries, preambleCode {} ["tmp"] "x.soia/m.soia" imports =
        .ok (Template.preambleText (.bool true) (.str "soia") entries) ∧
      List.Forall₂ (fun imported entry =>
        Path.resolve "x.soia" entry.1 = outputPath imported) imports entries := by
  have hpath : IsSourcePath "x.soia/m.soia" := by decide
  have himports : ∀ imported ∈ ["x.soia/y.soia", "a/b.soia"], IsSourcePath imported := by decide
  have hdirectory : Path.directoryOf (outputPath "x.soia/m.soia") = "x.soia" := by decide
  have hshared : HasLoneExtension ("/".intercalate (namesBelow "x.soia/m.soia" "x.soia/y.soia")) :=
    ⟨"y", by decide, by decide⟩
  have hother : HasLoneExtension ("/".intercalate (namesBelow "x.soia/m.soia" "a/b.soia")) :=
    ⟨"a/b", by decide, by decide⟩
  obtain ⟨entries, hpreamble, hentries⟩ := imports_reach_files_iff hpath himports {} ["tmp"]
  refine ⟨entries, hpreamble, ?_⟩
  rw [hdirectory] at hentries
  obtain _ | ⟨⟨-, hfirst⟩, _ | ⟨⟨-, hsecond⟩, _ | _⟩⟩ := hentries
  exact .cons (hfirst.2 hshared) (.cons (hsecond.2 hother) .nil)

/-- The first extension of a path may be that of a directory. -/
theorem directory_extension_misses_file :
    IsSourcePath "m.soia" ∧ IsSourcePath "x.soia/y.soia" ∧
      importPath [] "m.soia" "x.soia/y.soia" = .ok "./x.dart/y.soia" ∧
      Path.resolve (Path.directoryOf (outputPath "m.soia")) "./x.dart/y.soia" ≠
        outputPath "x.soia/y.soia" := by
  refine ⟨by decide, by decide, by decide +kernel, by decide⟩

end DartRecords.Dart
