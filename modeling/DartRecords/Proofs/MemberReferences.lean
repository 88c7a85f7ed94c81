import DartRecords.Proofs.Balance
import DartRecords.Proofs.ClassCode

/-!
# References to members of classes

The expressions of types refer to static members of the classes of records: the default value of a
struct is its `defaultInstance` and that of an enum its `unknown` value, and a record is serialized
by its `serializer`.  The code of every file is that of the classes of its records and of its
methods and constants, and it has the references that their types call for and no others
(`exists_fileCode`).  The default values are declared in the classes, but a `serializer` is declared
in none.
-/

namespace DartRecords.Dart

open Schema (Constant Document Method Module Record RecordMap)

/-! ## Records -/

/-- The code of a record: the class that the record is known by, with the code before and after it,
in which no default value or serializer is written. -/
structure RecordCode where
  record : Record
  before : String
  main : ClassCode
  after : String

def RecordCode.text (c : RecordCode) : String := "\n" ++ c.before ++ c.main.text ++ c.after

/-- What the classes of a record refer to: those of a struct have the default values of its
fields. -/
def recordReferences (records : RecordMap) (r : Record) : List Reference :=
  if r.isStruct then r.fields.flatMap (fieldReferences records) else []

/-- The code of a record as it is written in a scope. -/
structure RecordCode.WrittenIn (scope : Scope) (c : RecordCode) : Prop where
  name : scope.className c.record = .ok c.main.name
  default : (defaultMember c.record).text ∈ c.main.staticNames
  noSerializer : StaticName.serializer.text ∉ c.main.staticNames
  spelled : c.main.code.SpelledIn scope
  references : ∀ target, target ∈ c.main.code.references ↔
    target ∈ recordReferences scope.records c.record

section Records

variable {scope : Scope} {r : Record}

theorem exists_recordCode {code : List String}
    (h : (recordCode (Speller.possible scope) r : Outcomes (List String)) code) :
    ∃ c : RecordCode, c.record = r ∧ c.text = String.join code ∧ c.WrittenIn scope := by
  rw [recordCode] at h
  cases hkind : r.isStruct with
  | true =>
    rw [if_pos hkind] at h
    obtain ⟨_, ⟨name, hname, sealedOne, -, frozenOne, hfrozen, mutableOne, -, rfl⟩, rfl⟩ := h
    obtain ⟨c, rfl, htext, hstatic, hspelled, hreferences⟩ := exists_frozenClass hfrozen
    refine ⟨⟨r, String.join sealedOne, c, String.join mutableOne⟩, rfl, ?_, hname, ?_, ?_,
      hspelled, ?_⟩
    · simp only [RecordCode.text, htext, String.join_cons, String.join_append, String.append_assoc]
    · rw [hstatic, defaultMember, if_pos hkind]
      decide
    · rw [hstatic]
      decide
    · rw [recordReferences, if_pos hkind]
      exact hreferences
  | false =>
    rw [if_neg (by simp [hkind])] at h
    obtain ⟨_, ⟨name, hname, sealedOne, hsealed, constantOnes, -, wrapperOnes, -, kinds, -, rfl⟩,
      rfl⟩ := h
    obtain ⟨c, rfl, htext, hunknown, hserializer, hrefers⟩ := exists_sealedCode hsealed
    refine ⟨⟨r, "", c,
      String.join (Enum.unknownClass c.name ++ constantOnes.flatten ++ wrapperOnes.flatten
      ++ kinds)⟩, rfl, ?_, hname, ?_, hserializer, hrefers.spelled, fun target => ?_⟩
    · simp only [RecordCode.text, htext, String.join_cons, String.join_append, String.append_assoc,
        String.append_empty]
    · rw [defaultMember, if_neg (by simp [hkind])]
      exact hunknown
    · rw [hrefers.references, recordReferences, if_neg (by simp [hkind])]

/-- Of the members that the expressions of types refer to, the class of a record declares its
default value alone. -/
theorem RecordCode.WrittenIn.mem_staticNames_iff {c : RecordCode} (h : c.WrittenIn scope)
    {member : StaticName} (hmember : member = .serializer ∨ member = defaultMember c.record) :
    member.text ∈ c.main.staticNames ↔ member ≠ .serializer := by
  refine ⟨fun hmem heq => h.noSerializer (heq ▸ hmem), fun hne => ?_⟩
  rw [hmember.resolve_left hne]
  exact h.default

theorem member_of_mem_defaultReferences {records : RecordMap} {type : Schema.Ty}
    {target : Reference} (h : target ∈ defaultReferences records type) :
    ∃ home, records.lookup target.key = some home ∧ target.member = defaultMember home := by
  cases type with
  | record key =>
    cases hlookup : records.lookup key with
    | none => simp [defaultReferences, hlookup] at h
    | some home =>
      simp only [defaultReferences, hlookup, List.mem_singleton] at h
      obtain rfl := h
      exact ⟨home, hlookup, rfl⟩
  | primitive | array | keyedArray | optional => cases h

theorem member_of_mem_recordReferences {records : RecordMap} {target : Reference}
    (h : target ∈ recordReferences records r) :
    ∃ home, records.lookup target.key = some home ∧ target.member = defaultMember home := by
  rw [recordReferences] at h
  split at h
  · obtain ⟨f, -, htarget⟩ := List.mem_flatMap.1 h
    rw [fieldReferences] at htarget
    cases htype : f.type with
    | none => simp [htype] at htarget
    | some type =>
      rw [htype, Option.map_some, Option.getD_some] at htarget
      exact member_of_mem_defaultReferences htarget
  · cases h

end Records

/-! ## Methods and constants -/

/-- What a method refers to. -/
def methodReferences (method : Method) : List Reference :=
  serializerReferences method.requestType ++ serializerReferences method.responseType

theorem member_of_mem_serializerReferences {type : Schema.Ty} {target : Reference}
    (h : target ∈ serializerReferences type) : target.member = .serializer := by
  induction type with
  | primitive p => cases h
  | array item ih => exact ih h
  | keyedArray item path keyType ih => exact ih h
  | optional other ih => exact ih h
  | record key =>
    obtain rfl := List.mem_singleton.1 h
    rfl

section Expressions

variable {scope : Scope}

/-- The serializers of a method are its last arguments. -/
theorem exists_render_method (name : Json) (number : Int)
    (request response requestSerializer responseSerializer : String) : ∃ before,
    Template.method.render
      [("name", name), ("method_name", name), ("number", .int number),
       ("request_type", .str request), ("response_type", .str response),
       ("request_serializer", .str requestSerializer),
       ("response_serializer", .str responseSerializer)] =
    .ok (before ++ (requestSerializer ++ (",\n" ++ responseSerializer) ++ ",\n);\n\n")) := by
  have hpieces : Template.method.render
      [("name", name), ("method_name", name), ("number", .int number),
       ("request_type", .str request), ("response_type", .str response),
       ("request_serializer", .str requestSerializer),
       ("response_serializer", .str responseSerializer)] =
      .ok ("final _soia.Method<\n" ++ (request ++ (",\n" ++ (response ++ ("\n> " ++ (name.display ++
        (" =\n_soia.Method(\n" ++ (literal name ++ (",\n" ++
        ((Json.int number).display ++
          (",\n" ++ (requestSerializer ++ (",\n" ++ (responseSerializer ++
        (",\n);\n\n" ++ ""))))))))))))))) := rfl
  refine ⟨"final _soia.Method<\n" ++ (request ++ (",\n" ++ (response ++ ("\n> " ++ (name.display ++
    (" =\n_soia.Method(\n" ++
      (literal name ++ (",\n" ++ ((Json.int number).display ++ ",\n"))))))))), ?_⟩
  rw [hpieces]
  simp only [String.append_assoc, String.append_empty]

theorem exists_methodCode {method : Method} {written : String}
    (h : (methodCode (Speller.possible scope) method : Outcomes String) written) :
    ∃ code, Code.Spells scope written (methodReferences method) code := by
  obtain ⟨request, -, response, -, requestSerializer, hrequest, responseSerializer, hresponse,
    h⟩ := h
  have hrender := mapError_eq_ok_iff.1 (Outcomes.of_lift h)
  obtain ⟨before, hbefore⟩ := exists_render_method method.name method.number request response
    requestSerializer responseSerializer
  rw [hbefore] at hrender
  obtain rfl := Except.ok.inj hrender
  obtain ⟨requestCode, hrequest⟩ := exists_serializerCode hrequest
  obtain ⟨responseCode, hresponse⟩ := exists_serializerCode hresponse
  have hall :=
    (hrequest.append ((Code.spells_text scope ",\n").append hresponse)).between before ",\n);\n\n"
  exact ⟨_, by simpa only [methodReferences, String.append_assoc, List.nil_append] using hall⟩

theorem exists_constantCode {constant : Constant} {written : String}
    (h : (constantCode (Speller.possible scope) constant : Outcomes String) written) :
    ∃ code, Code.Spells scope written (serializerReferences constant.type) code := by
  obtain ⟨name, -, type, -, serializer, hserializer, h⟩ := h
  have hrender := mapError_eq_ok_iff.1 (Outcomes.of_lift h)
  rw [Template.render_constant] at hrender
  obtain rfl := Except.ok.inj hrender
  obtain ⟨code, hcode⟩ := exists_serializerCode hserializer
  have hall := hcode.between ("final " ++ type ++ " " ++ name ++ " =\n")
    (".fromJsonCode(" ++ String.ofList (stringLiteral constant.value.toDense.toList) ++ ");\n\n")
  exact ⟨_, by simpa only [String.append_assoc] using hall⟩

end Expressions

/-! ## Files -/

/-- The code of a file: the preamble, the records, and the methods and constants. -/
structure FileCode where
  preamble : String
  records : List RecordCode
  others : Code

namespace FileCode

def text (source : FileCode) : String :=
  source.preamble ++ String.join (source.records.map RecordCode.text) ++ source.others.text

/-- All that a file refers to. -/
def references (source : FileCode) : List Reference :=
  source.records.flatMap (fun c => c.main.code.references) ++ source.others.references

/-- What the methods of a module refer to, and the constants if they are written. -/
def otherReferences (config : Config) (module : Module) : List Reference :=
  module.methods.flatMap methodReferences ++
    if config.emitConstants.truthy then
      module.constants.flatMap fun constant => serializerReferences constant.type
    else []

/-- The code of a file as it is written for a module. -/
structure WrittenFor (config : Config) (records : RecordMap) (module : Module) (source : FileCode) :
    Prop where
  listed : source.records.map RecordCode.record = module.records
  written : ∀ c ∈ source.records, c.WrittenIn ⟨records, module.path⟩
  others : source.others.Refers ⟨records, module.path⟩ (otherReferences config module)

/-- All that the types of a module call for. -/
def moduleReferences (config : Config) (records : RecordMap) (module : Module) : List Reference :=
  module.records.flatMap (recordReferences records) ++ otherReferences config module

section WrittenFor

variable {config : Config} {records : RecordMap} {module : Module} {source : FileCode}

theorem WrittenFor.mem_references_iff (h : source.WrittenFor config records module)
    {target : Reference} :
    target ∈ source.references ↔ target ∈ moduleReferences config records module := by
  have hrecords : target ∈ source.records.flatMap (fun c => c.main.code.references) ↔
      target ∈ module.records.flatMap (recordReferences records) := by
    rw [← h.listed, List.flatMap_map, List.mem_flatMap, List.mem_flatMap]
    exact exists_congr fun c => and_congr_right fun hc => (h.written c hc).references target
  rw [references, moduleReferences, List.mem_append, List.mem_append, hrecords, h.others.references]

/-- A reference is to a serializer or to the default value of a record. -/
theorem member_of_mem_moduleReferences {target : Reference}
    (h : target ∈ moduleReferences config records module) :
    target.member = .serializer ∨
      ∃ home, records.lookup target.key = some home ∧ target.member = defaultMember home := by
  rw [moduleReferences, otherReferences, List.mem_append, List.mem_append] at h
  rcases h with h | h | h
  · obtain ⟨r, -, htarget⟩ := List.mem_flatMap.1 h
    exact .inr (member_of_mem_recordReferences htarget)
  · obtain ⟨method, -, htarget⟩ := List.mem_flatMap.1 h
    exact .inl ((List.mem_append.1 htarget).elim member_of_mem_serializerReferences
      member_of_mem_serializerReferences)
  · split at h
    · obtain ⟨constant, -, htarget⟩ := List.mem_flatMap.1 h
      exact .inl (member_of_mem_serializerReferences htarget)
    · cases h

/-- The code of each record of the module is in the file. -/
theorem WrittenFor.exists_record (h : source.WrittenFor config records module) {r : Record}
    (hr : r ∈ module.records) : ∃ c ∈ source.records, c.record = r := by
  rwa [← h.listed, List.mem_map] at hr

end WrittenFor

end FileCode

section Files

variable {scope : Scope}

theorem exists_recordCodes {items : List Record} {codes : List (List String)}
    (h : List.Forall₂
      (fun r code => (recordCode (Speller.possible scope) r : Outcomes (List String)) code)
      items codes) :
    ∃ written : List RecordCode, written.map RecordCode.record = items ∧
      written.map RecordCode.text = codes.map String.join ∧ ∀ c ∈ written, c.WrittenIn scope := by
  induction h with
  | nil => exact ⟨[], rfl, rfl, List.forall_mem_nil _⟩
  | cons hfirst _ ih =>
    obtain ⟨first, rfl, htext, hfirst⟩ := exists_recordCode hfirst
    obtain ⟨rest, rfl, hrestText, hrest⟩ := ih
    refine ⟨first :: rest, rfl, ?_, List.forall_mem_cons.2 ⟨hfirst, hrest⟩⟩
    rw [List.map_cons, List.map_cons, htext, hrestText]

/-- The declarations of a module; constants are written only if the configuration asks for them. -/
theorem exists_declarations {config : Config} {module : Module} {texts : List String}
    (h : (declarations (Speller.possible scope) config module : Outcomes (List String)) texts) :
    ∃ (written : List RecordCode) (others : Code), written.map RecordCode.record = module.records ∧
      (∀ c ∈ written, c.WrittenIn scope) ∧ others.Refers scope
      (FileCode.otherReferences config module) ∧
      String.join (written.map RecordCode.text) ++ others.text = String.join texts := by
  obtain ⟨codes, hcodes, h⟩ := h
  obtain ⟨methods, hmethods, h⟩ := h
  obtain ⟨written, hrecords, htext, hwritten⟩ := exists_recordCodes (Outcomes.of_mapM hcodes)
  obtain ⟨methodsCode, hmethods⟩ :=
    Code.exists_joined ((Outcomes.of_mapM hmethods).imp fun _ _ => exists_methodCode)
  by_cases hemit : config.emitConstants.truthy = true
  · rw [if_pos hemit] at h
    obtain ⟨constants, hconstants, rfl⟩ := h
    obtain ⟨constantsCode, hconstants⟩ :=
      Code.exists_joined ((Outcomes.of_mapM hconstants).imp fun _ _ => exists_constantCode)
    have hothers := hmethods.append hconstants
    refine ⟨written, methodsCode ++ constantsCode, hrecords, hwritten, ?_, ?_⟩
    · rw [FileCode.otherReferences, if_pos hemit]
      exact hothers.toRefers
    · rw [htext, hothers.text, String.join_append, String.join_append, String.append_assoc]
  · rw [if_neg hemit] at h
    obtain ⟨constants, rfl, rfl⟩ := h
    refine ⟨written, methodsCode, hrecords, hwritten, ?_, ?_⟩
    · rw [FileCode.otherReferences, if_neg hemit, List.append_nil]
      exact hmethods.toRefers
    · rw [htext, hmethods.text, List.append_nil, String.join_append]

/-- The code of a module is that of a file. -/
theorem exists_fileCode {config : Config} {workingDirectory : List String} {records : RecordMap}
    {path : String} {module : Module} {fragments : List String} (hpath : module.path = .str path)
    (h : (moduleCode (Speller.possible ⟨records, .str path⟩) config workingDirectory path module :
      Outcomes (List String)) fragments) :
    ∃ source : FileCode, source.text = String.join fragments ∧
    source.WrittenFor config records module := by
  obtain ⟨preamble, -, texts, htexts, rfl⟩ := h
  rw [← hpath] at htexts
  obtain ⟨written, others, hlisted, hwritten, hothers, htext⟩ := exists_declarations htexts
  refine ⟨⟨preamble, written, others⟩, ?_, hlisted, hwritten, hothers⟩
  rw [FileCode.text, String.append_assoc, htext, String.join_cons]

/-- The code of the files of a document. -/
theorem exists_fileCodes {config : Config} {workingDirectory : List String} {records : RecordMap}
    {modules : List Module} {files : List SourceFile}
    (h : List.Forall₂ (fun module file => ∃ indentUnit path fragments, module.path = .str path ∧
      (moduleCode (Speller.possible ⟨records, .str path⟩) config workingDirectory path module :
        Outcomes (List String)) fragments ∧
      LaidOut config indentUnit path fragments file) modules files) :
    ∃ sources : List FileCode,
      List.Forall₂ (fun module source => source.WrittenFor config records module) modules sources ∧
      List.Forall₂ (fun source file =>
        ∃ indentUnit path, LaidOut config indentUnit path [source.text] file)
        sources files := by
  induction h with
  | nil => exact ⟨[], .nil, .nil⟩
  | cons hfirst _ ih =>
    obtain ⟨indentUnit, path, fragments, hpath, hcode, hlaid⟩ := hfirst
    obtain ⟨source, htext, hsource⟩ := exists_fileCode hpath hcode
    obtain ⟨sources, hsources, hfiles⟩ := ih
    refine ⟨source :: sources, .cons hsource hsources, .cons ⟨indentUnit, path, ?_⟩ hfiles⟩
    rwa [LaidOut, htext, String.join_cons, String.join_nil, String.append_empty]

end Files

/-- The code of the files of a document refers to members of the classes of its records.  Such a
member is declared in the class of the record, wherever the class is written, just if it is no
serializer. -/
theorem referenced_member_declared_iff [Limits] {config : Config} {workingDirectory : List String}
    {document : Document} {files : List SourceFile} {s s' : Session} (hs : AvoidsMembers s.names)
    (hrun : ((Backend.dart workingDirectory).files config document).run.run s = (.ok files, s')) :
    AvoidsMembers s'.names ∧ ∃ sources : List FileCode,
      List.Forall₂ (fun module source => source.WrittenFor config document.records module)
        document.modules sources ∧
      List.Forall₂ (fun source file =>
        ∃ indentUnit path, LaidOut config indentUnit path [source.text] file)
        sources files ∧
      ∀ source ∈ sources, ∀ target ∈ source.references, ∀ home ∈ sources, ∀ c ∈ home.records,
        document.records.lookup target.key = some c.record →
          (target.member.text ∈ c.main.staticNames ↔ target.member ≠ .serializer) := by
  obtain ⟨hs', hcodes⟩ := possible_of_files hs hrun
  obtain ⟨sources, hsources, hfiles⟩ := exists_fileCodes hcodes
  refine ⟨hs', sources, hsources, hfiles,
    fun source hsource target htarget home hhome c hc hkey => ?_⟩
  obtain ⟨module, -, hwritten⟩ := exists_of_forall₂_left hsources.flip hsource
  obtain ⟨homeModule, -, hhomeWritten⟩ := exists_of_forall₂_left hsources.flip hhome
  refine (hhomeWritten.written c hc).mem_staticNames_iff ?_
  have hcalled := hwritten.mem_references_iff.1 htarget
  rcases FileCode.member_of_mem_moduleReferences hcalled with hmember | ⟨r, hr, hmember⟩
  · exact .inl hmember
  · obtain rfl := Option.some.inj (hr.symm.trans hkey)
    exact .inr hmember

/-! ### A route -/

/-- A stop with its name. -/
def stopRecord : Record where
  key := "route.soia:Stop"
  name := .str "Stop"
  kind := .struct
  fields := [{ name := .str "name", number := 0, type := some (.primitive .string) }]
  ancestors := [.str "Stop"]
  modulePath := .str "route.soia"

/-- A way to travel. -/
def modeRecord : Record where
  key := "route.soia:Mode"
  name := .str "Mode"
  kind := .enum
  fields := [{ name := .str "SERIALIZER", number := 1 }]
  ancestors := [.str "Mode"]
  modulePath := .str "route.soia"

/-- A way from one stop on to the next leg. -/
def legRecord : Record where
  key := "route.soia:Leg"
  name := .str "Leg"
  kind := .struct
  fields := [
    { name := .str "start", number := 0, type := some (.record "route.soia:Stop") },
    { name := .str "mode", number := 1, type := some (.record "route.soia:Mode") },
    { name := .str "next", number := 2, type := some (.record "route.soia:Leg"),
      recursion := some .hard }]
  ancestors := [.str "Leg"]
  modulePath := .str "route.soia"

/-- Routes, with a constant and a method. -/
def routeDocument : Document where
  records :=
    [(stopRecord.key, stopRecord), (modeRecord.key, modeRecord), (legRecord.key, legRecord)]
  modules := [
    { path := .str "route.soia"
      records := [stopRecord, modeRecord, legRecord]
      methods := [{ name := .str "Plan", number := 3
                    requestType := .array (.record stopRecord.key)
                    responseType := .optional (.record modeRecord.key) }]
      constants :=
        [{ name := .str "HOME", type := .record stopRecord.key, value := .arr [.str "home"] }] }]

section

attribute [local instance] Limits.usual

theorem exists_routeFiles :
    ∃ files s', ((Backend.dart []).files {} routeDocument).run.run {} = (.ok files, s') := by
  have hdocument : WellFormed routeDocument := by decide
  obtain ⟨files, hfiles, -⟩ := forall₂_of_yields fun module hmodule =>
    yields_ofModule (SoundConfig.of_validate (by decide)) indentFits_default hdocument.record
      (hdocument.module module hmodule) fun _ _ => .inr (List.forall_mem_nil _)
  obtain ⟨s', -, hrun⟩ := gives_files {} [] (fun module hmodule =>
    @WellFormedModule.allows ⟨routeDocument.records, module.path⟩ hdocument.record module
      (hdocument.module module hmodule)) {} namesSound_empty
  exact ⟨files, s', by rw [hrun, hfiles]⟩

/-- A leg refers to all kinds of default values, also to that of its own record; the constant and
the method refer to serializers. -/
theorem route_members_declared_iff : ∃ files s' sources,
    ((Backend.dart []).files {} routeDocument).run.run {} = (.ok files, s') ∧
    List.Forall₂ (fun module source => FileCode.WrittenFor {} routeDocument.records module source)
      routeDocument.modules sources ∧
    List.Forall₂ (fun source file =>
      ∃ indentUnit path, LaidOut {} indentUnit path [source.text] file)
      sources files ∧
    (∀ source ∈ sources,
      [⟨stopRecord.key, .defaultInstance⟩, ⟨modeRecord.key, .unknown⟩,
        ⟨legRecord.key, .defaultInstance⟩, ⟨stopRecord.key, .serializer⟩,
          ⟨modeRecord.key, .serializer⟩] ⊆ source.references) ∧
    ∀ source ∈ sources, ∀ target ∈ source.references, ∀ home ∈ sources, ∀ c ∈ home.records,
      routeDocument.records.lookup target.key = some c.record →
        (target.member.text ∈ c.main.staticNames ↔ target.member ≠ .serializer) := by
  obtain ⟨files, s', hrun⟩ := exists_routeFiles
  obtain ⟨-, sources, hsources, hfiles, hdeclared⟩ :=
    referenced_member_declared_iff avoidsMembers_empty hrun
  refine ⟨files, s', sources, hrun, hsources, hfiles, fun source hsource target htarget =>
    ?_, hdeclared⟩
  obtain ⟨module, hmodule, hwritten⟩ := exists_of_forall₂_left hsources.flip hsource
  obtain rfl := List.mem_singleton.1 hmodule
  refine hwritten.mem_references_iff.2 ?_
  revert target
  decide

/-- The file of routes refers to the serializer of stops, and declares the class of stops without
one. -/
theorem stop_serializer_undeclared : ∃ files s' sources,
    ((Backend.dart []).files {} routeDocument).run.run {} = (.ok files, s') ∧
    List.Forall₂ (fun module source => FileCode.WrittenFor {} routeDocument.records module source)
      routeDocument.modules sources ∧
    List.Forall₂ (fun source file =>
      ∃ indentUnit path, LaidOut {} indentUnit path [source.text] file)
      sources files ∧
    ∃ source ∈ sources, ∃ c ∈ source.records, c.record = stopRecord ∧
      ⟨stopRecord.key, .serializer⟩ ∈ source.references ∧
      StaticName.serializer.text ∉ c.main.staticNames := by
  obtain ⟨files, s', hrun⟩ := exists_routeFiles
  obtain ⟨-, hcodes⟩ := possible_of_files avoidsMembers_empty hrun
  obtain ⟨sources, hsources, hfiles⟩ := exists_fileCodes hcodes
  obtain ⟨source, hsource, hwritten⟩ := exists_of_forall₂_left hsources List.mem_cons_self
  obtain ⟨c, hc, hrecord⟩ := hwritten.exists_record (r := stopRecord) List.mem_cons_self
  exact ⟨files, s', sources, hrun, hsources, hfiles, source, hsource, c, hc, hrecord,
    hwritten.mem_references_iff.2 (by decide), (hwritten.written c hc).noSerializer⟩

end

end DartRecords.Dart
