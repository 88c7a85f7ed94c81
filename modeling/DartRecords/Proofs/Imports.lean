import DartRecords.Proofs.Balance
import DartRecords.Proofs.ClassNames
import DartRecords.Proofs.FileText

/-!
# Imports of the classes that a file names

In the file of a module, the class of a record of another module is qualified by an alias, under
which the preamble has to import that module.  The imports of a module are usually those of the
records in the types of its fields, methods and constants.  They cover all of the classes that the
file names but two kinds: the classes that it declares, and those of the parameters of a factory
that takes the fields of a struct of another module.  If these are covered as well, every qualifier
is imported; if not, there is one that is not (`class_qualifiers_imported_iff`).
-/

namespace DartRecords.Dart

open Schema (Field Module Record RecordMap Ty)

/-! ## Covered records -/

/-- The aliases under which the file of a module imports others. -/
def importedNames (module : Module) : List String :=
  module.imports.map fun entry => moduleAlias entry.1

/-- In the file of the module, the class of the record is not qualified or its qualifier is
imported. -/
def IsCovered (module : Module) (record : Record) : Prop :=
  ∀ name, qualifier module.path record = .ok (some name) → name ∈ importedNames module

/-- The modules of the records in the types of the module are imported, its own apart. -/
def ImportsTypes (records : RecordMap) (module : Module) : Prop :=
  ∀ type ∈ module.types, ∀ key ∈ type.recordKeys, ∀ record ∈ records.lookup key,
    record.modulePath = module.path ∨ ∃ entry ∈ module.imports, record.modulePath = .str entry.1

instance (records : RecordMap) (module : Module) : Decidable (ImportsTypes records module) :=
  inferInstanceAs (Decidable (∀ type ∈ module.types, ∀ key ∈ type.recordKeys,
    ∀ record ∈ records.lookup key,
      record.modulePath = module.path ∨ ∃ entry ∈ module.imports, record.modulePath = .str entry.1))

/-- The struct that a variant wraps, if it wraps one. -/
def wrappedStruct? (records : RecordMap) (variant : Field) : Option Record :=
  match variant.type with
  | some (.record key) => (records.lookup key).filter (·.isStruct)
  | _ => none

/-- The records in the types of the parameters that the fields of a struct become.  The type of the
keys of an array is not part of such a type. -/
def parameterRecords (scope : Scope) (struct : Record) : List Record :=
  struct.fields.flatMap fun f => f.type.toList.flatMap (namedRecords scope .initializer)

/-- The records in the types of the parameters of the factories of a module's enums. -/
def factoryRecords (scope : Scope) (module : Module) : List Record :=
  (module.records.filter (!·.isStruct)).flatMap fun enum =>
    enum.fields.flatMap fun variant =>
      (wrappedStruct? scope.records variant).toList.flatMap (parameterRecords scope)

theorem same_str (path : String) : (Json.str path).same (.str path) = true := by
  simp [Json.same, Json.sameScalar]

/-- A record is covered if its module is imported, or is the module itself. -/
theorem isCovered_of_path {module : Module} {record : Record}
    (h : record.modulePath = module.path ∨ ∃ entry ∈ module.imports, record.modulePath =
      .str entry.1) :
    IsCovered module record := by
  intro name hname
  rw [qualifier] at hname
  split at hname
  · cases hname
  · next hother =>
    cases hpath : record.modulePath with
    | str path =>
      rw [hpath] at hname h hother
      cases hname
      rcases h with hown | ⟨entry, hentry, hpath⟩
      · rw [← hown, same_str] at hother
        exact absurd rfl hother
      · cases hpath
        exact List.mem_map_of_mem hentry
    | _ =>
      rw [hpath] at hname
      cases hname

theorem wrappedStruct?_eq_some_iff {scope : Scope} {variant : Field} {struct : Record} :
    wrappedStruct? scope.records variant = some struct ↔
      ∃ key, variant.type = some (.record key) ∧ scope.record key = .ok struct ∧
        struct.isStruct = true := by
  rw [wrappedStruct?]
  split
  · next key htype =>
    simp [htype, record_eq_ok_iff, Option.filter_eq_some_iff]
  · next hother =>
    constructor
    · intro h
      cases h
    · rintro ⟨key, htype, -⟩
      exact absurd htype (hother key)

/-- What makes a record one of those in the parameters of a factory. -/
theorem mem_factoryRecords {scope : Scope} {module : Module} {r : Record} :
    r ∈ factoryRecords scope module ↔
      ∃ enum ∈ module.records, enum.isStruct = false ∧ ∃ variant ∈ enum.fields, ∃ struct,
        (∃ key, variant.type = some (.record key) ∧ scope.record key = .ok struct ∧
          struct.isStruct = true) ∧
        ∃ parameter ∈ struct.fields, ∃ t, parameter.type = some t ∧
          r ∈ namedRecords scope .initializer t := by
  simp only [factoryRecords, parameterRecords, List.mem_flatMap, List.mem_filter, Bool.not_eq_true',
    Option.mem_toList, wrappedStruct?_eq_some_iff, and_assoc]

/-! ## Covered records are enough -/

section Covered

variable {records : RecordMap} {module : Module} {path : String}

theorem mem_types_of_field {r : Record} (hr : r ∈ module.records) {f : Field} (hf : f ∈ r.fields)
    {t : Ty} (ht : f.type = some t) : t ∈ module.types := by
  refine List.mem_append_left _ (List.mem_append_left _ (List.mem_flatMap.2 ⟨r, hr, ?_⟩))
  exact List.mem_filterMap.2 ⟨f, hf, ht⟩

/-- Where no name is excluded, everything about a module may be asked for if the keys in its types
and in the parameters of its factories may be, beside its own records. -/
theorem allowsModule_of_keys {q : Questions} {scope : Scope} (hname : ∀ v, q.Name v)
    (hown : ∀ r ∈ module.records, q.Found r)
    (htypes : ∀ t ∈ module.types, ∀ key ∈ t.recordKeys, q.AllowsKey scope key)
    (hfactory : ∀ enum ∈ module.records, enum.isStruct = false → ∀ variant ∈ enum.fields, ∀ key,
      variant.type = some (.record key) → ∀ struct, scope.record key = .ok struct →
      struct.isStruct = true → ∀ parameter ∈ struct.fields, ∀ t, parameter.type = some t →
      q.AllowsSpelling scope .initializer t) : q.AllowsModule scope module := by
  have htype : ∀ t ∈ module.types, q.AllowsType scope t := fun t ht =>
    ⟨fun part _ => hname part, htypes t ht⟩
  refine ⟨fun r hr => ?_, fun method hmethod => ?_, fun constant hconstant => ?_⟩
  · refine ⟨hown r hr, fun f hf => ⟨hname _, fun t ht => htype t (mem_types_of_field hr hf ht)⟩, ?_⟩
    intro hkind f hf key hkey struct hstruct hisStruct parameter hparameter
    exact ⟨hname _, hfactory r hr hkind f hf key hkey struct hstruct hisStruct parameter hparameter⟩
  · have hmem : ∀ t ∈ [method.requestType, method.responseType], t ∈ module.types := fun t ht =>
      List.mem_append_left _ (List.mem_append_right _ (List.mem_flatMap.2 ⟨method, hmethod, ht⟩))
    exact ⟨htype _ (hmem _ (by simp)), htype _ (hmem _ (by simp))⟩
  · exact ⟨hname _, htype _ (List.mem_append_right _ (List.mem_map_of_mem hconstant))⟩

/-- The records that are covered by the imports of a module may be named. -/
def coveredBy (module : Module) : Questions := ⟨fun _ => True, IsCovered module, fun _ => True⟩

theorem ImportsTypes.allowsModule (h : ImportsTypes records module)
    (hcovered : ∀ r ∈ module.records ++ factoryRecords ⟨records, .str path⟩ module,
      IsCovered module r) :
    (coveredBy module).AllowsModule ⟨records, .str path⟩ module := by
  refine allowsModule_of_keys (fun _ => trivial)
    (fun r hr => hcovered r (List.mem_append_left _ hr))
    (fun t ht key hkey => ⟨fun record hrecord => ?_, fun _ => trivial⟩) ?_
  · exact isCovered_of_path (h t ht key hkey record (record_eq_ok_iff.1 hrecord))
  · intro enum henum hkind variant hvariant key hkey struct hstruct hisStruct parameter hparameter t
      ht key' hkey'
    refine ⟨fun record hrecord => ?_, fun _ => trivial⟩
    refine hcovered record (List.mem_append_right _ (mem_factoryRecords.2 ?_))
    exact ⟨enum, henum, hkind, variant, hvariant, struct,
      ⟨key, hkey, hstruct, hisStruct⟩, parameter, hparameter, t, ht,
      mem_namedRecords.2 ⟨key', hkey', hrecord⟩⟩

/-- Where nothing is excluded, everything may be asked for. -/
theorem allowsModule_all (scope : Scope) (module : Module) :
    (⟨fun _ => True, fun _ => True, fun _ => True⟩ : Questions).AllowsModule scope module :=
  allowsModule_of_keys (fun _ => trivial) (fun _ _ => trivial)
    (fun _ _ _ _ => ⟨fun _ _ => trivial, fun _ => trivial⟩)
    fun _ _ _ _ _ _ _ _ _ _ _ _ _ _ _ _ => ⟨fun _ _ => trivial, fun _ => trivial⟩

end Covered

/-! ## Covered records are needed -/

section Named

variable {scope : Scope} {r : Record}

theorem mustNote_parameter {f : Field} {t : Ty} (ht : f.type = some t)
    (hr : r ∈ namedRecords scope .initializer t) :
    MustNote (Struct.parameter (Speller.noting scope) f) r := by
  refine MustNote.after fun t' _ hresolved => ?_
  rw [hresolved.of_resolved] at ht
  cases ht
  exact (mustNote_dartType hr none).bind _

theorem mustNote_createFactory {struct : Record} (hr : r ∈ parameterRecords scope struct)
    (name option base : String) :
    MustNote (Enum.createFactory (Speller.noting scope) name option base struct) r := by
  obtain ⟨parameter, hparameter, hr⟩ := List.mem_flatMap.1 hr
  obtain ⟨t, ht, hr⟩ := List.mem_flatMap.1 hr
  refine MustNote.after fun _ _ _ => ?_
  exact (MustNote.mapM hparameter (mustNote_parameter (Option.mem_toList.1 ht) hr)).bind _

theorem mustNote_factories {variant : Field} {struct : Record}
    (hwrapped : wrappedStruct? scope.records variant = some struct)
    (hr : r ∈ parameterRecords scope struct) (name : String) :
    MustNote (Enum.factories (Speller.noting scope) name variant) r := by
  obtain ⟨key, htype, hrecord, hstruct⟩ := wrappedStruct?_eq_some_iff.1 hwrapped
  refine MustNote.after fun option _ _ => MustNote.after fun base _ _ => ?_
  refine MustNote.after fun t _ hresolved => ?_
  rw [hresolved.of_resolved] at htype
  cases htype
  refine MustNote.after fun _ _ _ => MustNote.after fun _ _ _ => ?_
  refine MustNote.after fun record _ hfound => ?_
  have hsame : record = struct := by
    have hfound : scope.record key = .ok record := hfound.of_lift
    rw [hrecord] at hfound
    cases hfound
    rfl
  rw [hsame, if_pos hstruct]
  exact (mustNote_createFactory hr name option base).bind _

/-- The code of a record names its class. -/
theorem mustNote_recordCode (r : Record) : MustNote (recordCode (Speller.noting scope) r) r := by
  rw [recordCode]
  split
  · exact ((mustNote_className r).bind _).bind _
  · exact ((mustNote_className r).bind _).bind _

/-- The code of an enum names the records in the parameters of its factories. -/
theorem mustNote_recordCode_of_wrapped {enum struct : Record} (hkind : enum.isStruct = false)
    {variant : Field} (hvariant : variant ∈ enum.fields)
    (hwrapped : wrappedStruct? scope.records variant = some struct)
    (hr : r ∈ parameterRecords scope struct) :
    MustNote (recordCode (Speller.noting scope) enum) r := by
  have hvalue : variant ∈ enum.fields.filter (!Enum.isConstant ·) := by
    obtain ⟨key, htype, -⟩ := wrappedStruct?_eq_some_iff.1 hwrapped
    exact List.mem_filter.2 ⟨hvariant, by simp [Enum.isConstant, htype]⟩
  rw [recordCode, if_neg (by simp [hkind])]
  refine MustNote.bind (MustNote.after fun name _ _ => MustNote.bind ?_ _) _
  refine MustNote.after fun _ _ _ => MustNote.bind ?_ _
  exact MustNote.mapM hvalue (mustNote_factories hwrapped hr name)

/-- The code of a module names the classes that it declares, and the records in the parameters of
its factories. -/
theorem mustNote_moduleCode {module : Module}
    (hr : r ∈ module.records ++ factoryRecords scope module) (config : Config)
    (workingDirectory : List String) (path : String) :
    MustNote (moduleCode (Speller.noting scope) config workingDirectory path module) r := by
  refine MustNote.after fun preamble _ _ => MustNote.bind (MustNote.bind ?_ _) _
  rcases List.mem_append.1 hr with hr | hr
  · exact MustNote.mapM hr (mustNote_recordCode r)
  · obtain ⟨enum, henum, hr⟩ := List.mem_flatMap.1 hr
    obtain ⟨variant, hvariant, hr⟩ := List.mem_flatMap.1 hr
    obtain ⟨struct, hstruct, hr⟩ := List.mem_flatMap.1 hr
    obtain ⟨henum, hkind⟩ := List.mem_filter.1 henum
    exact MustNote.mapM henum (mustNote_recordCode_of_wrapped (by simpa using hkind) hvariant
      (Option.mem_toList.1 hstruct) hr)

end Named

/-! ## Files -/

/-- A preamble has an import line for every imported module, under the alias of that module, and no
other ones. -/
theorem preamble_eq_of_ok {config : Config} {workingDirectory : List String}
    {path preamble : String} {imports : List String}
    (h : preambleCode config workingDirectory path imports = .ok preamble) :
    ∃ entries : List (String × String), entries.map (·.2) = imports.map moduleAlias ∧
      preamble = Template.preambleText config.addBanner config.clientPackage entries := by
  obtain ⟨values, hvalues, -⟩ := bind_eq_ok h
  have hpaths : ∀ imported ∈ imports,
      Yields (importPath workingDirectory path imported) fun _ => True := by
    intro imported himported
    obtain ⟨value, -, hvalue⟩ := exists_of_forall₂_left (forall₂_of_mapM hvalues) himported
    obtain ⟨text, htext, -⟩ := bind_eq_ok hvalue
    exact ⟨text, htext, trivial⟩
  obtain ⟨entries, hpreamble, hentries⟩ := preambleCode_eq hpaths config
  rw [hpreamble] at h
  cases h
  refine ⟨entries, ?_, rfl⟩
  rw [← List.forall₂_eq_eq_eq, List.forall₂_map_left_iff, List.forall₂_map_right_iff]
  exact hentries.flip.imp fun _ _ hentry => hentry.1

/-- If the imports of a module cover the records in its types, then every class name in its file
that is qualified is qualified by an imported alias exactly if they also cover the records that the
module declares and those in the parameters of its factories. -/
theorem class_qualifiers_imported_iff [Limits] {config : Config} {workingDirectory : List String}
    {records : RecordMap} {module : Module} {file : SourceFile} {s s' : Session}
    (hrun : (SourceFile.generate config workingDirectory records module).run.run s = (.ok file, s'))
    (htypes : ImportsTypes records module) :
    ∃ indentUnit path entries texts named,
      let preamble := Template.preambleText config.addBanner config.clientPackage entries
      module.path = .str path ∧ entries.map (·.2) = importedNames module ∧
      LaidOut config indentUnit path (preamble :: texts) file ∧
      Notes (moduleCode (Speller.noting ⟨records, .str path⟩) config workingDirectory path module)
        (preamble :: texts) named ∧
      ((∀ r ∈ named, IsCovered module r) ↔
        ∀ r ∈ module.records ++ factoryRecords ⟨records, .str path⟩ module,
        IsCovered module r) := by
  obtain ⟨indentUnit, path, fragments, between, after, -, hpath, hspellings, hfragments, hlaid⟩ :=
    SourceFile.of_generate hrun
  obtain ⟨preamble, hpreamble, hreturns⟩ := Returns.of_bind ⟨between, after, hfragments⟩
  obtain ⟨texts, -, hreturns⟩ := hreturns.of_bind
  cases hreturns.of_pure
  obtain ⟨entries, hentries, rfl⟩ := preamble_eq_of_ok (mapError_eq_ok_iff.1 hpreamble.of_lift)
  have hstart : Alike ⟨records, .str path⟩ between between := by
    refine ⟨rfl, fun key spelt hlookup => ?_⟩
    rw [hspellings] at hlookup
    cases hlookup
  -- The run that notes records is the same one whatever they are asked to satisfy.
  have hnoting {P : Record → Prop}
      (hallows : (⟨fun _ => True, P, fun _ => True⟩ : Questions).AllowsModule
        ⟨records, .str path⟩ module) :=
    (spells_noting ⟨records, .str path⟩ P).moduleCode hallows config workingDirectory path between
      between hstart
  have hmatch := hnoting (allowsModule_all _ _)
  rw [hfragments] at hmatch
  generalize hout : (moduleCode (Speller.noting ⟨records, .str path⟩) config workingDirectory path
    module).run.run.run between = outcome at hmatch
  cases hmatch with
  | @ok _ _ _ _ named _ =>
    have hnotes : Notes _ _ named := ⟨between, _, hout⟩
    refine ⟨indentUnit, path, entries, texts, named, hpath, ?_, hlaid, hnotes, ?_, ?_⟩
    · rw [hentries, importedNames, List.map_map]
      rfl
    · intro h r hr
      exact h r (mustNote_moduleCode hr config workingDirectory path _ named hnotes)
    · intro hcovered
      have hmatch' := hnoting (htypes.allowsModule hcovered)
      rw [hfragments, hout] at hmatch'
      cases hmatch' with
      | ok _ _ hnamed => exact hnamed

/-- A leaf. -/
def leafRecord : Record where
  key := "leaf.soia:Leaf"
  name := .str "Leaf"
  kind := .struct
  ancestors := [.str "Leaf"]
  modulePath := .str "leaf.soia"

/-- A branch with a leaf, in another module. -/
def branchRecord : Record where
  key := "branch.soia:Branch"
  name := .str "Branch"
  kind := .struct
  fields := [{ name := .str "leaf", number := 0, type := some (.record leafRecord.key) }]
  ancestors := [.str "Branch"]
  modulePath := .str "branch.soia"

/-- A tree is a branch. -/
def treeRecord : Record where
  key := "tree.soia:Tree"
  name := .str "Tree"
  kind := .enum
  fields := [{ name := .str "branch", number := 1, type := some (.record branchRecord.key) }]
  ancestors := [.str "Tree"]
  modulePath := .str "tree.soia"

def treeRecords : RecordMap :=
  [(leafRecord.key, leafRecord), (branchRecord.key, branchRecord), (treeRecord.key, treeRecord)]

/-- The module of trees, which imports some modules. -/
def treeModule (imports : List (String × List Json)) : Module :=
  { path := .str "tree.soia", records := [treeRecord], imports }

/-- The imports that the types of trees demand. -/
def branchImports : List (String × List Json) := [("branch.soia", [.str "Branch"])]

/-- The imports that the factories of trees demand. -/
def leafImports : List (String × List Json) := ("leaf.soia", [.str "Leaf"]) :: branchImports

section

attribute [local instance] Limits.usual

theorem exists_treeFile {imports : List (String × List Json)}
    (h : WellFormedModule treeRecords (treeModule imports)) :
    ∃ file s', (SourceFile.generate {} [] treeRecords (treeModule imports)).run.run {} =
        (.ok file, s') ∧ IsBalancedFile {} [] treeRecords (treeModule imports) file := by
  obtain ⟨file, s', hrun, -, hbalanced⟩ :=
    exists_generate (SoundConfig.of_validate (by decide)) indentFits_default
    (by decide) h (fun _ _ => .inr (List.forall_mem_nil _)) namesSound_empty
  exact ⟨file, s', hrun, hbalanced⟩

theorem trees_qualifiers_imported : ∃ file s',
    (SourceFile.generate {} [] treeRecords (treeModule leafImports)).run.run {} = (.ok file, s') ∧
    ∃ indentUnit entries texts named,
      let preamble := Template.preambleText (.bool true) (.str "soia") entries
      entries.map (·.2) = ["_lib_leaf", "_lib_branch"] ∧
      LaidOut {} indentUnit "tree.soia" (preamble :: texts) file ∧
      Notes (moduleCode (Speller.noting ⟨treeRecords, .str "tree.soia"⟩) {} [] "tree.soia"
        (treeModule leafImports)) (preamble :: texts) named ∧
      ∀ r ∈ named, IsCovered (treeModule leafImports) r := by
  obtain ⟨file, s', hrun, -⟩ := @exists_treeFile leafImports (by decide)
  obtain ⟨indentUnit, path, entries, texts, named, hpath, hentries, hlaid, hnotes, hiff⟩ :=
    class_qualifiers_imported_iff hrun (by decide)
  obtain rfl : "tree.soia" = path := Json.str.inj hpath
  have hpaths : ∀ r ∈ [treeRecord] ++ factoryRecords ⟨treeRecords, .str "tree.soia"⟩
        (treeModule leafImports), r.modulePath = .str "tree.soia" ∨
      ∃ entry ∈ leafImports, r.modulePath = .str entry.1 := by decide
  exact ⟨file, s', hrun, indentUnit, entries, texts, named, hentries.trans (by decide),
    hlaid, hnotes, hiff.2 fun r hr => isCovered_of_path (hpaths r hr)⟩

/-- The parameter for a leaf in the factory for a branch. -/
def leafParameter : List Char := "required _lib_leaf.Leaf_orMutable leaf".toList

theorem infix_of_treeCode {code : List String}
    (h : recordCode (Speller.plain ⟨treeRecords, .str "tree.soia"⟩) treeRecord = .ok code) :
    leafParameter <:+: (String.join code).toList := by
  have hmem : ∀ code ∈ (recordCode (Speller.plain ⟨treeRecords, .str "tree.soia"⟩)
      treeRecord).toOption, String.ofList (leafParameter ++ ",\n".toList) ∈ code := by
    decide +kernel
  have hjoin := infix_join (hmem code (by rw [h]; rfl))
  rw [String.toList_ofList] at hjoin
  exact List.IsInfix.trans (List.prefix_append _ _).isInfix hjoin

/-- The imports that the types of trees demand are not enough for their factories. -/
theorem unimported_leaf_in_factory : ImportsTypes treeRecords (treeModule branchImports) ∧
    importedNames (treeModule branchImports) = ["_lib_branch"] ∧
    ∃ file s', (SourceFile.generate {} [] treeRecords (treeModule branchImports)).run.run {} =
        (.ok file, s') ∧ leafParameter <:+: file.code.toList := by
  obtain ⟨file, s', hrun, indentUnit, path, preamble, texts, -, hpath, -, htexts, -, hlaid⟩ :=
    @exists_treeFile branchImports (by decide)
  obtain rfl : "tree.soia" = path := Json.str.inj hpath
  have hpart : leafParameter <:+: (String.join (preamble :: texts)).toList := by
    obtain ⟨codes, hcodes, htexts⟩ := bind_eq_ok htexts
    obtain ⟨code, hmem, hcode⟩ := exists_of_forall₂_left (forall₂_of_mapM hcodes)
      (List.mem_singleton_self treeRecord)
    cases htexts
    refine (infix_of_treeCode hcode).trans (infix_join (List.mem_cons_of_mem _ ?_))
    simpa using ⟨code, hmem, rfl⟩
  have hshape : leafParameter = 'r' :: leafParameter.tail.dropLast ++ ['f'] := by decide
  have hcollapse : Layout.collapse leafParameter.tail.dropLast =
      leafParameter.tail.dropLast := by decide
  rw [hshape] at hpart
  have hfile := hlaid.part (by decide) (by decide) (by decide) hpart
  rw [hcollapse, ← hshape] at hfile
  exact ⟨by decide, by decide, file, s', hrun, hfile⟩

end

end DartRecords.Dart
