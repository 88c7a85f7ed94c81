import DartRecords.CommandLine.Arguments
import DartRecords.CommandLine.Console
import DartRecords.CommandLine.Output
import DartRecords.Config.Validation
import DartRecords.Generation.Basic
import DartRecords.Registry.Create

/-!
# The command

The command loads a document, builds a configuration, generates code and writes it, or prints it.
It can also tell which languages it knows.
-/

namespace DartRecords.CommandLine

open Run (fail log ofValue print say)

/-- The name of the command. -/
def programName : String := "soia-dart"

/-- The version of the command. -/
def programVersion : String := "1.0.0"

/-- What the command takes from its surroundings beside the file system. -/
structure Surroundings where
  input : String := ""
  now : Log.Stamp := {}
  reply : String → Loading.Reply := fun _ => .fault .connection "no network"

variable [Limits] [Json.LoneHalves]

/-- The registry of a run. -/
def registry : Run (Registry Dart.Gen) := do
  pure (.standard (← get).files.workingDirectory)

/-- Goes on with an answer of the registry. -/
def ofRegistry {α : Type} : Except Registry.Error α → Run α
  | .ok a => pure a
  | .error (.mismatch cause) => throw (.fault (.mismatch cause))
  | .error e => fail e.message

/-! ## Languages -/

/-- The aliases of a language in the table of languages. -/
def aliasCell (aliases : List String) : String :=
  if aliases.isEmpty then "[dim]none[/dim]" else ", ".intercalate aliases

/-- The row of a language in the table of languages. -/
def languageRow (info : Registry.LanguageInfo) (name : String) : List String :=
  ["🔧 " ++ name, info.extension, info.className, aliasCell info.aliases]

/-- Prints the table of languages. -/
def listLanguages : Run Nat := do
  let r ← registry
  if r.languages.isEmpty then
    say "[yellow]⚠️ No code generators available[/yellow]"
    return 0
  let rows ← r.languages.mapM fun name => do
    let info ← ofRegistry (r.info name)
    pure (languageRow info name)
  say ""
  print (.table "📋 Supported Languages" ["Language", "Extension", "Generator Class", "Aliases"]
    rows)
  say ""
  return 0

/-- Whether a language is known; if not, that is printed. -/
def checkLanguage (language : Json) : Run Bool := do
  let r ← registry
  let name ← ofRegistry (Registry.nameText language)
  if r.isSupported name then return true
  say ("[red]✗ Unsupported language '" ++ name ++ "'[/red]")
  say ("[dim]Supported languages: " ++ ", ".intercalate r.languages ++ "[/dim]")
  return false

/-- The text of the panel about a language. -/
def languagePanel (info : Registry.LanguageInfo) : String :=
  "[bold]Language:[/bold] " ++ info.name
    ++ "\n[bold]File Extension:[/bold] " ++ info.extension
    ++ "\n[bold]Generator Class:[/bold] " ++ info.className
    ++ "\n[bold]Module:[/bold] " ++ info.moduleName
    ++ (if info.aliases.isEmpty then ""
        else "\n[bold]Aliases:[/bold] " ++ ", ".intercalate info.aliases)

/-- The rows of the table of default settings. -/
def configRows (config : Config) : List (List String) :=
  [["Indent Size", config.indentSize.display], ["Use Tabs", config.useTabs.display],
   ["Add Banner", config.addBanner.display], ["Emit Constants", config.emitConstants.display],
   ["Client Package", config.clientPackage.display]]

/-- Prints what is known about a language. -/
def showLanguage (language : Json) : Run Nat := do
  if !(← checkLanguage language) then
    say "[dim]Use --list-languages to see available options[/dim]"
    return 1
  let r ← registry
  let name ← ofRegistry (Registry.nameText language)
  let info ← ofRegistry (r.info name)
  say ""
  print (.panel ("🔧 " ++ String.ofList (Text.capitalize info.name.toList) ++ " Generator")
    (languagePanel info))
  let made ← ofRegistry (r.create (← get).files name (.value .null))
  say ""
  print (.table "⚙️  Default Configuration" ["Setting", "Value"] (configRows made.config))
  return 0

/-! ## Input and configuration -/

/-- Goes on with a loaded document. -/
def ofLoading : Except Loading.Error Loading.Loaded → Run Json
  | .ok loaded => pure loaded.document
  | .error (.encoding cause) => throw (.fault (.encoding cause))
  | .error (.inaccessible cause) => throw (.fault (.file cause))
  | .error (.mismatch cause) => throw (.fault (.mismatch cause))
  | .error e => fail ("Failed to load input: " ++ e.message)

/-- Loads the document that the arguments ask for. -/
def loadDocument (around : Surroundings) (args : Arguments) : Run Json := do
  if args.stdin then ofLoading (Loading.fromInput around.input)
  else
    let source ← ofValue (Loading.Source.ofString args.source.display)
    log source.announcement
    let outcome := source.load (← get).files around.reply
    modify fun c => { c with requests := outcome.requested.toList ++ c.requests }
    outcome.entries.forM log
    ofLoading outcome.result

/-- The settings that the arguments change. -/
def overrides (args : Arguments) : Json.Members :=
  (if args.indentSize = .null then [] else [("indent_size", args.indentSize)])
    ++ (if args.useTabs then [("use_tabs", .bool true)] else [])
    ++ (if args.noBanner then [("add_banner", .bool false)] else [])
    ++ (if args.noConstants then [("emit_constants", .bool false)] else [])
    ++ (if args.clientPackage.truthy then [("client_package", args.clientPackage)] else [])
    ++ (if args.outputDir.truthy then [("output_dir", args.outputDir)] else [])

/-- Goes on after an operation on configurations; a report starts with some words. -/
def ofConfig {α : Type} (words : String) : Except Config.Error α → Run α
  | .ok a => pure a
  | .error (.mismatch cause) => throw (.fault (.mismatch cause))
  | .error (.encoding cause) => throw (.fault (.encoding cause))
  | .error (.inaccessible cause) => throw (.fault (.file cause))
  | .error e => fail (words ++ e.message)

/-- Saves a configuration if the arguments ask for that. -/
def saveConfig (args : Arguments) (config : Config) : Run Unit := do
  match args.saveConfig with
  | .str path =>
    if path.isEmpty then return ()
    let files ← ofConfig "" (Config.save (← get).files config (Path.ofString path))
    modify fun c => { c with files }
    say ("[green]✓[/green] Saved configuration to [cyan]" ++ path ++ "[/cyan]")
  | _ => return ()

/-- Builds the configuration that the arguments ask for; warnings about it are printed. -/
def buildConfig (args : Arguments) : Run Config := do
  let name ← ofRegistry (Registry.nameText args.language)
  let config ← ofConfig "Configuration error: "
    (Config.load (← get).files (.str (Registry.nameKey name)) (.obj (overrides args)) args.config)
  let warnings ← ofValue config.validate
  warnings.forM fun warning => say ("[yellow]⚠️  " ++ warning ++ "[/yellow]")
  saveConfig args config
  return config

/-! ## Generated code -/

/-- Prints generated files. -/
def printFiles (files : List Dart.SourceFile) (language : String) : Run Unit :=
  files.forM fun file => do
    let border := String.ofList (List.replicate 20 '═')
    say ("[green]" ++ border ++ " 📄 " ++ file.path ++ " " ++ border ++ "[/green]\n")
    print (.listing file.code language)

/-- The directory for generated files. -/
def outputDirectory (config : Config) : Except Mismatch Path :=
  if !config.outputDir.truthy then .ok (Path.ofString ".")
  else match config.outputDir with
    | .str directory => .ok (Path.ofString directory)
    | v => .error v.notAPath

/-- Writes generated files; whether that succeeded. -/
def saveFiles (config : Config) (files : List Dart.SourceFile) : Run Bool := do
  let directory ← ofValue (outputDirectory config)
  let outcome := writeFiles (← get).files directory files
  modify fun c => { c with files := outcome.files }
  outcome.written.forM fun path => do
    log { level := .info, origin := .commandLine, message := "Wrote " ++ path.toString }
    say ("[green]✓[/green] Generated [cyan]" ++ path.toString ++ "[/cyan]")
  match outcome.fault with
  | none => return true
  | some (.file cause) =>
    if cause = .nullCharacter then throw (.fault (.file cause))
    say ("[red]✗ Failed to write output:[/red] " ++ cause.message)
    return false
  | some .noName =>
    throw (.fault (.mismatch (.badValue "the path of a generated file has an empty name")))

/-- The label of an entry of metadata. -/
def metadataLabel (name : String) : String :=
  " ".intercalate ((Text.splitAt '_' name.toList).map (String.ofList ∘ Text.capitalize))

/-- Prints metadata. -/
def printMetadata (metadata : Metadata) : Run Unit := do
  say ""
  print (.table "📊 Generation Metadata" ["Property", "Value"]
    (metadata.entries.map fun (name, value) => [metadataLabel name, value.display]))

/-- Prints warnings. -/
def printWarnings (warnings : List String) : Run Unit := do
  if !warnings.isEmpty then
    say "\n[yellow]⚠️  Warnings:[/yellow]"
    warnings.forM fun warning => say ("  [yellow]•[/yellow] " ++ warning)
    say ""

/-- Generates code with a backend; what it logs is logged. -/
def generate (made : Registry.Configured Dart.Gen) (document : Schema.Document) :
    Run (Except Dart.Error Generated) := do
  let (result, session) := Generation.run made.backend made.config document {}
  session.entries.reverse.forM log
  return result

/-- Generates code from a document, and writes or prints it. -/
def generateAndOutput (document : Json) (config : Config) (args : Arguments) : Run Nat := do
  match Schema.readDocument document with
  | .error (.mismatch cause) => throw (.fault (.mismatch cause))
  | .error e =>
    say ("[red]✗[/red] " ++ e.message)
    return 1
  | .ok schema =>
    let r ← registry
    let name ← ofRegistry (Registry.nameText args.language)
    match r.create (← get).files name (.config config) with
    | .error e =>
      say ("[red]✗[/red] " ++ e.message)
      return 1
    | .ok made =>
      match ← generate made schema with
      | .error e =>
        say ("[red]✗ Code generation failed:[/red] " ++ Generation.failureMessage e)
        return 1
      | .ok generated =>
        if args.stdout then printFiles generated.files name
        else if !(← saveFiles config generated.files) then return 1
        if args.verbose then printMetadata generated.metadata
        printWarnings generated.warnings
        return 0

/-! ## The whole command -/

/-- Does what the arguments ask for. -/
def dispatch (around : Surroundings) (args : Arguments) : Run Nat := do
  if args.listLanguages then listLanguages
  else if args.languageInfo.truthy then showLanguage args.languageInfo
  else if !args.source.truthy && !args.stdin then
    fail "Input source required (file, URL, or --stdin)"
  else if !(← checkLanguage args.language) then return 1
  else
    let document ← loadDocument around args
    let config ← buildConfig args
    generateAndOutput document config args

/-- Does what the arguments ask for; a reported failure is printed and logged. -/
def handle (around : Surroundings) (args : Arguments) : Run Nat :=
  tryCatch (dispatch around args) fun
    | .reported message => do
      say ("[red]✗ Error:[/red] " ++ message)
      log { level := .error, origin := .commandLine, message }
      return 1
    | .fault cause => throw (.fault cause)

/-- How the command ends. -/
inductive Ending where
  | exit (code : Nat)
  | stopped (cause : Stop)
  | fault (cause : Fault)
  deriving DecidableEq, Repr

/-- The fault of a logger that cannot be set up. -/
def setupFault : Log.SetupError → Fault
  | .unknownLevel name => .mismatch (.badValue (Log.SetupError.unknownLevel name).message)
  | .mismatch cause => .mismatch cause
  | .file cause => .file cause

/-- Runs the command on a file system. -/
def run (around : Surroundings) (files : FileSystem) (words : List String) : Ending × Console :=
  match parse words with
  | .error cause => (.stopped cause, { files })
  | .ok args =>
    match ({ moment := around.now } : Log.Logger).setup files args.logLevel args.logFile with
    | (.error e, logger, files) => (.fault (setupFault e), { files, logger })
    | (.ok (), logger, files) =>
      match (handle around args).run.run { files, logger } with
      | (.ok code, console) => (.exit code, console)
      | (.error (.fault cause), console) => (.fault cause, console)
      | (.error (.reported message), console) =>
        (.fault (.mismatch (.badValue message)), console)

end DartRecords.CommandLine
