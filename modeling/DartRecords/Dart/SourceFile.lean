import DartRecords.Config.Basic
import DartRecords.Dart.Enum
import DartRecords.Dart.Template
import DartRecords.Path.Relative

/-!
# Source files

One Dart file is generated for each module: its imports, the classes of its records, its methods
and its constants.  The code of all of them is written first, and then laid out as a whole.
-/

namespace DartRecords.Dart

open Schema (Constant Method Module Record)

/-- A generated file; its path is relative to the output directory. -/
structure SourceFile where
  path : String
  code : String
  deriving DecidableEq, Repr

/-! ## Imports -/

/-- The first schema extension in a path becomes the extension of Dart files. -/
def dartPath (path : String) : String :=
  String.ofList (Text.replaceFirst schemaExtension ".dart".toList path.toList)

/-- Makes a path start with a point. -/
def startWithPoint (path : String) : String :=
  if path.startsWith "." then path else "./" ++ path

/-- The directory of a module. -/
def moduleDirectory (modulePath : String) : String :=
  let directory := Path.directoryOf modulePath
  if directory.isEmpty then "." else directory

/-- The path by which the file of a module imports that of another one.  Paths are relative to a
working directory, which shows only in a path that leads above it. -/
def importPath (workingDirectory : List String) (modulePath imported : String) :
    Except Mismatch String :=
  if imported.isEmpty then .error (.badValue "no path specified")
  else .ok (startWithPoint (dartPath
    (Path.relativeTo workingDirectory imported (moduleDirectory modulePath))))

/-- What the preamble says about one import. -/
def importEntry (workingDirectory : List String) (modulePath imported : String) :
    Except Mismatch Json := do
  let path ← importPath workingDirectory modulePath imported
  .ok (.obj [("path", .str path), ("alias", .str (moduleAlias imported))])

/-- The start of the file of a module. -/
def preambleCode (config : Config) (workingDirectory : List String) (modulePath : String)
    (imports : List String) : Except Mismatch String := do
  let entries ← imports.mapM (importEntry workingDirectory modulePath)
  Template.preamble.render [("add_banner", config.addBanner),
    ("client_package", config.clientPackage), ("imports", .arr entries)]

/-! ## Records, methods and constants -/

variable {m : Type → Type} [Monad m] [MonadExceptOf Error m]

/-- The code of a record, after an empty line. -/
def recordCode (sp : Speller m) (record : Record) : m (List String) := do
  let code ← if record.isStruct then Struct.classes sp record else Enum.classes sp record
  pure ("\n" :: code)

/-- The code of a method. -/
def methodCode (sp : Speller m) (method : Method) : m String := do
  let requestType ← sp.dartType method.requestType .frozen none
  let responseType ← sp.dartType method.responseType .frozen none
  let requestSerializer ← sp.serializer method.requestType
  let responseSerializer ← sp.serializer method.responseType
  lift (ofValue (Template.method.render
    [("name", method.name), ("method_name", method.name), ("number", .int method.number),
     ("request_type", .str requestType), ("response_type", .str responseType),
     ("request_serializer", .str requestSerializer),
     ("response_serializer", .str responseSerializer)]))

/-- The code of a constant. -/
def constantCode (sp : Speller m) (constant : Constant) : m String := do
  let name ← sp.constantName constant.name
  let type ← sp.dartType constant.type .frozen none
  let serializer ← sp.serializer constant.type
  lift (ofValue (Template.constant.render
    [("name", .str name), ("type", .str type), ("serializer", .str serializer),
     ("dense_json", .str constant.value.toDense)]))

/-- The declarations of a module: one text for each record, each method and each constant. -/
def declarations (sp : Speller m) (config : Config) (module : Module) : m (List String) := do
  let records ← module.records.mapM (recordCode sp)
  let methods ← module.methods.mapM (methodCode sp)
  let constants ← if config.emitConstants.truthy then module.constants.mapM (constantCode sp)
    else pure []
  pure (records.map String.join ++ methods ++ constants)

/-- The code of a module of a path before it is laid out, as fragments. -/
def moduleCode (sp : Speller m) (config : Config) (workingDirectory : List String)
    (path : String) (module : Module) : m (List String) := do
  let preamble ← lift (ofValue
    (preambleCode config workingDirectory path (module.imports.map (·.1))))
  let texts ← declarations sp config module
  pure (preamble :: texts)

/-! ## Whole files -/

/-- Gives laid-out code the line endings of a configuration. -/
def withLineEnding (config : Config) (code : List Char) : Except Mismatch (List Char) :=
  match config.lineEnding with
  | .str ending =>
    .ok (if ending = "\n" then code else Text.replaceChar '\n' ending.toList code)
  | .null => .error (.wrongType "replace() argument 2 must be str, not None")
  | v => .error (.wrongType ("replace() argument 2 must be str, not " ++ v.typeName))

/-- The file of a module, computed without any memory. -/
def SourceFile.ofModule [Limits] (config : Config) (workingDirectory : List String)
    (records : Schema.RecordMap) (module : Module) : Except Error SourceFile := do
  let unit ← ofValue config.indentUnit
  let path ← ofValue module.path.text
  let fragments ← moduleCode (Speller.plain ⟨records, .str path⟩) config workingDirectory path
    module
  let laid ← (Layout.layout unit.toList (String.join fragments).toList).mapError .unbalanced
  let code ← ofValue (withLineEnding config laid.text)
  .ok ⟨outputPath path, String.ofList code⟩

/-- The file of a module, with names and spellings that are remembered. -/
def SourceFile.generate [Limits] (config : Config) (workingDirectory : List String)
    (records : Schema.RecordMap) (module : Module) : Gen SourceFile := do
  Session.log .debug .dart ("Generating Dart code for " ++ module.path.display)
  let unit ← lift (ofValue config.indentUnit)
  modify fun s => { s with spellings := [] }
  let path ← lift (ofValue module.path.text)
  let fragments ← moduleCode (Speller.remembering ⟨records, .str path⟩) config workingDirectory
    path module
  let laid ← lift ((Layout.layout unit.toList (String.join fragments).toList).mapError .unbalanced)
  if let some note := laid.note? then Session.log .debug .layout note
  let code ← lift (ofValue (withLineEnding config laid.text))
  pure ⟨outputPath path, String.ofList code⟩

end DartRecords.Dart
