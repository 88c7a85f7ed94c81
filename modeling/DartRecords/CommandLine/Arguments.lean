import DartRecords.CommandLine.Word
import DartRecords.Json.Equality
import DartRecords.Number.Whole

/-!
# Arguments of the command

What a command line asks for.  Words are read from left to right, and the first fault ends the
reading.  Words that nothing can be done with are reported at the end.
-/

namespace DartRecords.CommandLine

/-- What a command line asks for.  The value of an option is a text, a number for the indent size,
or an empty list if the option's only value is the marker, which is not counted. -/
structure Arguments where
  source : Json := .null
  stdin : Bool := false
  outputDir : Json := .null
  stdout : Bool := false
  language : Json := .str "dart"
  config : Json := .null
  indentSize : Json := .null
  useTabs : Bool := false
  noBanner : Bool := false
  noConstants : Bool := false
  clientPackage : Json := .null
  saveConfig : Json := .null
  listLanguages : Bool := false
  languageInfo : Json := .null
  verbose : Bool := false
  logLevel : Json := .str "WARNING"
  logFile : Json := .null
  deriving DecidableEq, Repr

/-- Why a command line cannot be read. -/
inductive UsageError where
  | ambiguous (cause : Ambiguity)
  | expectedValue (action : Action)
  | ignoredValue (action : Action) (value : String)
  | notANumber (action : Action) (value : String)
  | invalidChoice (action : Action) (value : String) (choices : List String)
  /-- Standard input is asked for after a source. -/
  | stdinAfterSource
  /-- A source is given after standard input was asked for. -/
  | sourceAfterStdin
  | unrecognized (words : List String)
  deriving DecidableEq, Repr

/-- The message of a fault. -/
def UsageError.message : UsageError → String
  | .ambiguous cause =>
    "ambiguous option: " ++ cause.word ++ " could match " ++ ", ".intercalate cause.names
  | .expectedValue action => "argument " ++ action.title ++ ": expected one argument"
  | .ignoredValue action value =>
    "argument " ++ action.title ++ ": ignored explicit argument " ++ Text.quote value
  | .notANumber action value =>
    "argument " ++ action.title ++ ": invalid int value: " ++ Text.quote value
  | .invalidChoice action value choices =>
    "argument " ++ action.title ++ ": invalid choice: " ++ Text.quote value ++ " (choose from "
      ++ ", ".intercalate (choices.map Text.quote) ++ ")"
  | .stdinAfterSource => "argument --stdin: not allowed with argument source"
  | .sourceAfterStdin => "argument source: not allowed with argument --stdin"
  | .unrecognized words => "unrecognized arguments: " ++ " ".intercalate words

/-- What ends the reading of a command line. -/
inductive Stop where
  | usage (cause : UsageError)
  | help
  | version
  deriving DecidableEq, Repr

namespace Arguments

/-- Turns a switch on. -/
def turnOn (a : Arguments) : Switch → Arguments
  | .stdin => { a with stdin := true }
  | .stdout => { a with stdout := true }
  | .useTabs => { a with useTabs := true }
  | .noBanner => { a with noBanner := true }
  | .noConstants => { a with noConstants := true }
  | .listLanguages => { a with listLanguages := true }
  | .verbose => { a with verbose := true }

/-- Gives an option a value. -/
def assign (a : Arguments) (value : Json) : Setting → Arguments
  | .outputDir => { a with outputDir := value }
  | .language => { a with language := value }
  | .config => { a with config := value }
  | .indentSize => { a with indentSize := value }
  | .clientPackage => { a with clientPackage := value }
  | .saveConfig => { a with saveConfig := value }
  | .languageInfo => { a with languageInfo := value }
  | .logLevel => { a with logLevel := value }
  | .logFile => { a with logFile := value }

end Arguments

/-- The levels that may be chosen. -/
def levelChoices : List String := ["DEBUG", "INFO", "WARNING", "ERROR"]

/-- The value of an option, read from its text. -/
def readValue (setting : Setting) (text : String) : Except UsageError Json :=
  if text = "--" then .ok (.arr [])
  else match setting with
    | .indentSize =>
      match Whole.ofText text.toList with
      | .ok n => .ok (.int n)
      | .error _ => .error (.notANumber (.setting setting) text)
    | .logLevel =>
      if levelChoices.contains text then .ok (.str text)
      else .error (.invalidChoice (.setting setting) text levelChoices)
    | _ => .ok (.str text)

/-- An option whose value is still to come, with the switches that stand before it in its word. -/
structure Pending where
  before : List Action
  setting : Setting
  deriving DecidableEq, Repr

/-- What has been read so far. -/
structure Reading where
  arguments : Arguments := {}
  pending : Option Pending := none
  /-- Whether the place of the source is taken. -/
  sourceTaken : Bool := false
  /-- Whether the last word was the source, so that a marker after it belongs to it. -/
  atSource : Bool := false
  /-- Words that nothing could be done with, the last one first. -/
  extras : List String := []
  deriving DecidableEq, Repr

namespace Reading

/-- Does what an option without a value asks for. -/
def perform (r : Reading) : Action → Except Stop Reading
  | .help => .error .help
  | .version => .error .version
  | .switch .stdin =>
    if r.arguments.source ≠ .null then .error (.usage .stdinAfterSource)
    else .ok { r with arguments := r.arguments.turnOn .stdin }
  | .switch s => .ok { r with arguments := r.arguments.turnOn s }
  | .setting _ => .ok r

/-- Gives an option its value, after doing what the switches before it ask for. -/
def assign (r : Reading) (before : List Action) (setting : Setting) (text : String) :
    Except Stop Reading := do
  let r ← before.foldlM perform r
  let value ← (readValue setting text).mapError .usage
  .ok { r with arguments := r.arguments.assign value setting }

/-- Takes a word as the source. -/
def takeSource (r : Reading) (text : String) : Except Stop Reading :=
  if r.arguments.stdin then .error (.usage .sourceAfterStdin)
  else .ok { r with
    arguments := { r.arguments with source := .str text }, sourceTaken := true, atSource := true }

/-- Reads an option that has a text directly after it in the same word.  After a short switch the
text holds further short options; `before` are the switches so far. -/
def attached (r : Reading) (action : Action) (name : String) (before : List Action) :
    List Char → Except Stop Reading
  | [] =>
    match action with
    | .setting s => r.assign before s ""
    | _ => .error (.usage (.ignoredValue action ""))
  | c :: rest =>
    match action with
    | .setting s => r.assign before s (String.ofList (c :: rest))
    | _ =>
      if "--".toList.isPrefixOf name.toList then
        .error (.usage (.ignoredValue action (String.ofList (c :: rest))))
      else
        let next := String.ofList ['-', c]
        match action? next, rest with
        | none, _ => .error (.usage (.ignoredValue action (String.ofList (c :: rest))))
        | some (.setting s), [] => .ok { r with pending := some ⟨before ++ [action], s⟩ }
        | some last, [] => (before ++ [action, last]).foldlM perform r
        | some following, _ => attached r following next (before ++ [action]) rest

/-- Reads the marker.  It goes with the source, before or directly after it. -/
def readMarker (r : Reading) : Reading :=
  if !r.sourceTaken || r.atSource then r else { r with extras := "--" :: r.extras }

/-- Reads a word while no option waits for its value. -/
def readFree (r : Reading) : Word → Except Stop Reading
  | .argument text =>
    if r.sourceTaken then .ok { r with extras := text :: r.extras, atSource := false }
    else r.takeSource text
  | .marker => .ok { r.readMarker with atSource := false }
  | .option (.setting s) _ none => .ok { r with pending := some ⟨[], s⟩, atSource := false }
  | .option action _ none => { r with atSource := false }.perform action
  | .option action name (some value) =>
    { r with atSource := false }.attached action name [] value.toList
  | .unknown text => .ok { r with extras := text :: r.extras, atSource := false }

/-- Reads a word. -/
def read (r : Reading) (word : Word) : Except Stop Reading :=
  match r.pending, word with
  | some p, .argument text => { r with pending := none }.assign p.before p.setting text
  | some p, _ => .error (.usage (.expectedValue (.setting p.setting)))
  | none, word => r.readFree word

/-- Ends the reading. -/
def finish (r : Reading) : Except Stop Arguments :=
  match r.pending with
  | some p => .error (.usage (.expectedValue (.setting p.setting)))
  | none =>
    if r.extras.isEmpty then .ok r.arguments
    else .error (.usage (.unrecognized r.extras.reverse))

end Reading

/-- Reads a command line. -/
def parse (words : List String) : Except Stop Arguments := do
  let words ← (readWords words).mapError fun cause => .usage (.ambiguous cause)
  let reading ← words.foldlM Reading.read {}
  reading.finish

end DartRecords.CommandLine
