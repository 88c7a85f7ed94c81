import DartRecords.Config.Validation
import DartRecords.Proofs.Emission
import DartRecords.Proofs.Memory

/-!
# Generated code is balanced

For a well-formed document and a configuration about which there is no warning, there is a file for
every module, in whatever state of the memory the generation starts.  No context is open after the
preamble, nor after any record, method or constant that follows; so each of them starts at the
margin (`generated_code_balanced`).

A configuration may pass without a warning although its indent size is so large that no line can be
indented by it.  Such sizes are excluded by `IndentFits`.
-/

namespace DartRecords.Dart

open Layout
open Schema (Document Module)

/-! ## Configurations without warnings -/

/-- A configuration without warnings has a usual line ending, and a package name that keeps to its
line. -/
structure SoundConfig (config : Config) : Prop where
  indent : Config.validIndentSize config.indentSize = true
  ending : config.lineEnding = .str "\n" ∨ config.lineEnding = .str "\r\n"
  package : ∃ package, config.clientPackage = .str package ∧ Flat package

theorem line_ending_of_valid {v : Json} (h : Config.validLineEnding v = .ok true) :
    v = .str "\n" ∨ v = .str "\r\n" := by
  rw [Config.validLineEnding] at h
  split at h
  · simpa using h
  · cases h

theorem package_of_valid {v : Json} (h : Config.validPackage v = .ok true) :
    ∃ package, v = .str package ∧ Flat package := by
  unfold Config.validPackage at h
  split at h
  · cases h
  · split at h
    · next package _ =>
      refine ⟨package, rfl, fun hnewline => ?_⟩
      have hall := List.all_eq_true.1 (Except.ok.inj h) _ hnewline
      exact absurd hall (by decide)
    · cases h

theorem SoundConfig.of_validate {config : Config} (h : config.validate = .ok []) :
    SoundConfig config := by
  rw [Config.validate] at h
  cases hending : Config.validLineEnding config.lineEnding with
  | error e =>
    rw [hending] at h
    cases h
  | ok validEnding =>
    cases hpackage : Config.validPackage config.clientPackage with
    | error e =>
      rw [hending, hpackage] at h
      cases h
    | ok validPackage =>
      rw [hending, hpackage] at h
      obtain ⟨⟨hindent, rfl⟩, rfl⟩ : (Config.validIndentSize config.indentSize = true ∧
          validEnding = true) ∧ validPackage = true := by
        have hnil := Except.ok.inj h
        simpa only [List.append_eq_nil_iff, ite_eq_left_iff, List.cons_ne_nil, imp_false,
          Bool.not_eq_true, Bool.not_eq_false] using hnil
      exact ⟨hindent, line_ending_of_valid hending, package_of_valid hpackage⟩

/-- Lines can be indented as the configuration says. -/
def IndentFits [Limits] (config : Config) : Prop :=
  config.useTabs.truthy = true ∨
    ∀ n, config.indentSize = .int n → n < Config.sizeLimit ∧ n < Limits.length

theorem SoundConfig.exists_indentUnit [Limits] {config : Config} (h : SoundConfig config)
    (hfits : IndentFits config) : ∃ unit, config.indentUnit = .ok unit := by
  rw [Config.indentUnit]
  split
  · exact ⟨_, rfl⟩
  · next htabs =>
    have hfits := hfits.resolve_left htabs
    have hindent := h.indent
    cases hsize : config.indentSize with
    | int n =>
      obtain ⟨hhigh, hlength⟩ := hfits n hsize
      rw [hsize] at hindent
      have hpos : 1 ≤ n := of_decide_eq_true hindent
      have hlow : ¬n < -Config.sizeLimit := by
        rw [Config.sizeLimit]
        omega
      dsimp only
      rw [if_neg (by simp [hlow, hhigh]), if_neg (Int.not_le.2 hlength)]
      exact ⟨_, rfl⟩
    | bool b => exact ⟨_, rfl⟩
    | _ =>
      rw [hsize] at hindent
      cases hindent

theorem SoundConfig.exists_withLineEnding {config : Config} (h : SoundConfig config)
    (code : List Char) : ∃ text, withLineEnding config code = .ok text := by
  rw [withLineEnding]
  rcases h.ending with hending | hending
  · exact ⟨_, by rw [hending]⟩
  · exact ⟨_, by rw [hending]⟩

/-! ## Names -/

theorem WellFormedType.allows {scope : Scope} {type : Schema.Ty}
    (h : WellFormedType scope.records type) : Questions.texts.AllowsType scope type :=
  ⟨fun part hpart => (h.names part hpart).isText, fun key _ => Questions.texts_allowsKey scope key⟩

/-- The names in a well-formed module are texts. -/
theorem WellFormedModule.allows {scope : Scope} (hscope : WellFormedScope scope) {module : Module}
    (h : WellFormedModule scope.records module) : Questions.texts.AllowsModule scope module where
  record r hr :=
    { found := trivial
      field f hf :=
        ⟨((h.record r hr).fields f hf).name.isText,
          fun t ht => (((h.record r hr).fields f hf).type t ht).allows⟩
      wrapped _ f hf key hkey struct hstruct _ parameter hparameter := by
        have htype := ((h.record r hr).fields f hf).type _ hkey
        obtain ⟨struct', hstruct', hwell⟩ := yields_record hscope htype List.mem_cons_self
        rw [hstruct] at hstruct'
        cases hstruct'
        exact ⟨(hwell.fields parameter hparameter).name.isText,
          fun _ _ key _ => Questions.texts_allowsKey scope key⟩ }
  method method hmethod := ⟨(h.method method hmethod).request.allows,
    (h.method method hmethod).response.allows⟩
  constant constant hconstant := ⟨(h.constant constant hconstant).name.isText,
    (h.constant constant hconstant).type.allows⟩

/-! ## Declarations -/

theorem yields_declarations {scope : Scope} (hscope : WellFormedScope scope) {module : Module}
    (h : WellFormedModule scope.records module) (config : Config) :
    Yields (declarations (Speller.plain scope) config module) fun texts =>
      ∀ text ∈ texts, Declared text := by
  refine (Yields.mapM fun r hr => yields_recordCode hscope (h.record r hr)).bind
    fun records hrecords => ?_
  refine (Yields.mapM fun method hmethod => yields_methodCode hscope (h.method method hmethod)).bind
    fun methods hmethods => ?_
  have hall {constants : List String} (hconstants : ∀ text ∈ constants, Declared text) :
      ∀ text ∈ records.map String.join ++ methods ++ constants, Declared text := by
    refine List.forall_mem_append.2 ⟨List.forall_mem_append.2 ⟨?_, hmethods⟩, hconstants⟩
    exact List.forall_mem_map.2 hrecords
  dsimp only
  split
  · refine (Yields.mapM fun constant hconstant =>
      yields_constantCode hscope (h.constant constant hconstant)).bind
        fun constants hconstants => ?_
    exact Yields.pure (hall hconstants)
  · exact Yields.pure (hall (by simp))

/-! ## Files -/

/-- Code of which no part that ends with its preamble or with a declaration leaves a context open;
every declaration starts at the margin. -/
structure Balanced (indentUnit preamble : String) (texts : List String) : Prop where
  closed : ∀ before, before <+: texts → ∃ laid,
    layout indentUnit.toList (String.join (preamble :: before)).toList = .ok laid ∧
      laid.openContexts = 0
  margin : ∀ text ∈ texts, StartsAtMargin text

theorem balanced_of_declared {preamble : String} {texts : List String} (hpreamble : Steady preamble)
    (htexts : ∀ text ∈ texts, Declared text) (indentUnit : String) :
    Balanced indentUnit preamble texts where
  closed before hbefore := by
    refine layout_of_lays (steady_join ?_ [] settled_nil) indentUnit.toList
    refine List.forall_mem_cons.2 ⟨hpreamble, fun text htext => ?_⟩
    exact (htexts text (hbefore.subset htext)).steady
  margin text htext := (htexts text htext).begins.startsAtMargin

/-- The file is laid out from balanced code: the preamble and the declarations of its module. -/
def IsBalancedFile [Limits] (config : Config) (workingDirectory : List String)
    (records : Schema.RecordMap) (module : Module) (file : SourceFile) : Prop :=
  ∃ indentUnit path preamble texts,
    config.indentUnit = .ok indentUnit ∧ module.path = .str path ∧
    preambleCode config workingDirectory path (module.imports.map (·.1)) = .ok preamble ∧
    declarations (Speller.plain ⟨records, .str path⟩) config module = .ok texts ∧
    Balanced indentUnit preamble texts ∧ LaidOut config indentUnit path (preamble :: texts) file

theorem yields_ofModule [Limits] {config : Config} (hconfig : SoundConfig config)
    (hfits : IndentFits config) {records : Schema.RecordMap}
    (hrecords : ∀ entry ∈ records, WellFormedRecord records entry.2) {module : Module}
    (hmodule : WellFormedModule records module) {workingDirectory : List String}
    (hdirectory : ∀ path, module.path = .str path →
      Path.rootOf path = "" ∨ ∀ name ∈ workingDirectory, Flat name) :
    Yields (SourceFile.ofModule config workingDirectory records module)
      (IsBalancedFile config workingDirectory records module) := by
  obtain ⟨indentUnit, hunit⟩ := hconfig.exists_indentUnit hfits
  obtain ⟨package, hpackage, hflat⟩ := hconfig.package
  obtain ⟨path, hpath, hmodulePath⟩ := hmodule.path.exists_str
  obtain ⟨preamble, hpreamble, hsteady⟩ := yields_preambleCode hpackage hflat hmodulePath
    (hdirectory path hpath) (List.forall_mem_map.2 hmodule.imports)
  obtain ⟨texts, htexts, hdeclared⟩ :=
    @yields_declarations ⟨records, .str path⟩ hrecords module hmodule config
  have hbalanced := balanced_of_declared hsteady hdeclared indentUnit
  obtain ⟨laid, hlaid, -⟩ := hbalanced.closed texts List.prefix_rfl
  obtain ⟨code, hcode⟩ := hconfig.exists_withLineEnding laid.text
  refine ⟨⟨outputPath path, String.ofList code⟩, ?_, indentUnit, path, preamble, texts,
    hunit, hpath, hpreamble, htexts, hbalanced, laid, code, hlaid, hcode, rfl⟩
  have hfragments : moduleCode (Speller.plain ⟨records, .str path⟩) config workingDirectory path
      module = .ok (preamble :: texts) := by
    rw [moduleCode, hpreamble, htexts]
    rfl
  rw [SourceFile.ofModule, hunit, hpath]
  simp only [ofValue, Json.text, mapError_ok, bind, Except.bind, hfragments, hlaid, hcode]

/-- The file of a well-formed module is generated, whatever is remembered. -/
theorem exists_generate [Limits] {config : Config} (hconfig : SoundConfig config)
    (hfits : IndentFits config) {records : Schema.RecordMap}
    (hrecords : ∀ entry ∈ records, WellFormedRecord records entry.2) {module : Module}
    (hmodule : WellFormedModule records module) {workingDirectory : List String}
    (hdirectory : ∀ path, module.path = .str path →
      Path.rootOf path = "" ∨ ∀ name ∈ workingDirectory, Flat name) {s : Session} (hs :
      NamesSound s) :
    ∃ file s', (SourceFile.generate config workingDirectory records module).run.run s =
      (.ok file, s') ∧
      NamesSound s' ∧ IsBalancedFile config workingDirectory records module file := by
  obtain ⟨file, hfile, hbalanced⟩ := yields_ofModule hconfig hfits hrecords hmodule hdirectory
  have hnames := @WellFormedModule.allows ⟨records, module.path⟩ hrecords module hmodule
  obtain ⟨s', hs', hrun⟩ := gives_generate config workingDirectory records hnames s hs
  exact ⟨file, s', by rw [hrun, hfile], hs', hbalanced⟩

/-- For a configuration without warnings whose indentation fits, the files of a well-formed document
are generated, one for each module, from code that is balanced.  The working directory shows in the
files of modules with an absolute path only; there its names keep to their line. -/
theorem generated_code_balanced [Limits] {config : Config} (hconfig : config.validate = .ok [])
    (hfits : IndentFits config) {document : Document} (hdocument : WellFormed document)
    {workingDirectory : List String} (hdirectory : ∀ module ∈ document.modules, ∀ path,
      module.path = .str path → Path.rootOf path = "" ∨ ∀ name ∈ workingDirectory, Flat name)
    {s : Session} (hs : NamesSound s) :
    ∃ files s', ((Backend.dart workingDirectory).files config document).run.run s =
      (.ok files, s') ∧
      NamesSound s' ∧
      List.Forall₂ (IsBalancedFile config workingDirectory document.records) document.modules
        files := by
  have hsound := SoundConfig.of_validate hconfig
  obtain ⟨files, hfiles, hbalanced⟩ := forall₂_of_yields fun module hmodule =>
    yields_ofModule hsound hfits hdocument.record (hdocument.module module hmodule)
      (hdirectory module hmodule)
  have hnames : ∀ module ∈ document.modules,
      Questions.texts.AllowsModule ⟨document.records, module.path⟩ module := fun module hmodule =>
    @WellFormedModule.allows ⟨document.records, module.path⟩ hdocument.record module
      (hdocument.module module hmodule)
  obtain ⟨s', hs', hrun⟩ := gives_files config workingDirectory hnames s hs
  exact ⟨files, s', by rw [hrun, hfiles], hs', hbalanced⟩

/-- A point with its neighbours by name. -/
def pointRecord : Schema.Record where
  key := "point.soia:Point"
  name := .str "Point"
  kind := .struct
  fields := [
    { name := .str "name", number := 0, type := some (.primitive .string) },
    { name := .str "neighbours", number := 1
      type := some (.keyedArray (.record "point.soia:Point") [.str "name"] (.primitive .string)) }]
  ancestors := [.str "Point"]
  modulePath := .str "geometry/point.soia"

/-- A shape is empty or a point. -/
def shapeRecord : Schema.Record where
  key := "shape.soia:Drawing.Shape"
  name := .str "Shape"
  kind := .enum
  fields := [
    { name := .str "NOTHING", number := 1 },
    { name := .str "point", number := 2, type := some (.record "point.soia:Point") }]
  ancestors := [.str "Drawing", .str "Shape"]
  modulePath := .str "shape.soia"

/-- The shapes import the points. -/
def shapesDocument : Document where
  records := [(pointRecord.key, pointRecord), (shapeRecord.key, shapeRecord)]
  modules := [
    { path := .str "geometry/point.soia", records := [pointRecord] },
    { path := .str "shape.soia"
      records := [shapeRecord]
      methods := [{ name := .str "Draw", number := 7
                    requestType := .array (.record shapeRecord.key)
                    responseType := .optional (.record pointRecord.key) }]
      constants := [{ name := .str "GREETING", type := .primitive .string, value := .str "( \n" }]
      imports := [("geometry/point.soia", [.str "Point"])] }]

section

attribute [local instance] Limits.usual

/-- Lines can be indented by default. -/
theorem indentFits_default : IndentFits {} := .inr fun n hn => by
  cases hn
  decide

theorem shapes_code_balanced : ∃ files s',
    ((Backend.dart ["tmp"]).files {} shapesDocument).run.run {} = (.ok files, s') ∧
      NamesSound s' ∧
      List.Forall₂ (IsBalancedFile {} ["tmp"] shapesDocument.records)
        shapesDocument.modules files :=
  generated_code_balanced (by decide) indentFits_default (by decide)
    (fun _ _ _ _ => .inr (by decide)) namesSound_empty

/-- A name of the working directory that breaks the line of an import unbalances the file of a
module with an absolute path. -/
example : ((SourceFile.generate { addBanner := .bool false } ["a\n\x7d"] []
    { path := .str "/m.soia", imports := [("n.soia", [])] }).run.run {}).1 =
      .error (.unbalanced ⟨5, "\x7d/n.dart\" as _lib_n;".toList⟩) := by
  decide +kernel

end

/-- A configuration with an indent size beyond all memory. -/
def hugeIndent : Config := { indentSize := .int 9223372036854775808 }

/-- There is no warning about a huge indent size, but no file can be laid out with it. -/
theorem huge_indent_generates_nothing : WellFormed shapesDocument ∧ hugeIndent.validate = .ok [] ∧
    ∀ [Limits] (workingDirectory : List String) (s : Session),
      (((Backend.dart workingDirectory).files hugeIndent shapesDocument).run.run s).1 =
        .error (.mismatch (.outOfRange "cannot fit 'int' into an index-sized integer")) := by
  refine ⟨by decide, by decide, fun workingDirectory s => ?_⟩
  rfl

end DartRecords.Dart
