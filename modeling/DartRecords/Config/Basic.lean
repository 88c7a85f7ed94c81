import DartRecords.Json.Table
import DartRecords.Limits

/-!
# Configurations

The settings of a generator.  A configuration file may give any value to any setting, so the
settings are kept as loose values.  Settings without a meaning here are collected in a table of
custom settings.
-/

namespace DartRecords

/-- The custom settings: a table, or whatever value a configuration gives instead. -/
inductive CustomSettings where
  | table (entries : Table)
  | loose (value : Json)
  deriving DecidableEq, Repr

namespace CustomSettings

/-- The custom settings that a value stands for. -/
def ofJson : Json → CustomSettings
  | .obj members => .table (Table.ofMembers members)
  | v => .loose v

/-- The entries of the custom settings. -/
def entries : CustomSettings → Except Mismatch Table
  | .table entries => .ok entries
  | .loose v => Table.ofJson v

/-- The custom settings as JSON, for writing. -/
def toJson : CustomSettings → Json
  | .table entries => .obj (Table.toMembers entries)
  | .loose v => v

end CustomSettings

/-- The settings of a generator. -/
structure Config where
  outputDir : Json := .null
  indentSize : Json := .int 2
  useTabs : Json := .bool false
  lineEnding : Json := .str "\n"
  addBanner : Json := .bool true
  emitConstants : Json := .bool true
  clientPackage : Json := .str "soia"
  custom : CustomSettings := .table []
  deriving DecidableEq, Repr

namespace Config

/-- Changes the setting of a name, if there is one. -/
def set? (config : Config) (name : String) (value : Json) : Option Config :=
  match name with
  | "output_dir" => some { config with outputDir := value }
  | "indent_size" => some { config with indentSize := value }
  | "use_tabs" => some { config with useTabs := value }
  | "line_ending" => some { config with lineEnding := value }
  | "add_banner" => some { config with addBanner := value }
  | "emit_constants" => some { config with emitConstants := value }
  | "client_package" => some { config with clientPackage := value }
  | "custom" => some { config with custom := .ofJson value }
  | _ => none

/-- Changes settings one after another, and collects the entries that are none. -/
def setAll (config : Config) : Table → Config × Table
  | [] => (config, [])
  | (key, value) :: rest =>
    let changed := match key with
      | .str name => config.set? name value
      | _ => none
    match changed with
    | some config => config.setAll rest
    | none =>
      let (config, others) := config.setAll rest
      (config, (key, value) :: others)

/-- The configuration of a table of settings.  Unknown settings are added to the custom ones. -/
def ofTable (settings : Table) : Except Mismatch Config :=
  let (config, others) := setAll {} settings
  if others.isEmpty then .ok config
  else do
    let custom ← config.custom.entries
    .ok { config with custom := .table (custom.update others) }

/-- The configuration that has exactly the given settings changed; an unknown name is refused. -/
def ofFields (members : Json.Members) : Except Mismatch Config :=
  match setAll {} (Table.ofMembers members) with
  | (config, []) => .ok config
  | (_, (key, _) :: _) => .error (.wrongType ("unexpected setting " ++ key.quote))

/-- The settings by name, without the custom ones. -/
def settings (config : Config) : Json.Members :=
  [("output_dir", config.outputDir), ("indent_size", config.indentSize),
   ("use_tabs", config.useTabs), ("line_ending", config.lineEnding),
   ("add_banner", config.addBanner), ("emit_constants", config.emitConstants),
   ("client_package", config.clientPackage)]

/-- The configuration as one object, with an object or another value for the custom settings. -/
def toJson (config : Config) : Json :=
  .obj (config.settings ++ [("custom", config.custom.toJson)])

/-- Refuses to copy a configuration that the stack is too small for. -/
def checkCopied [Limits] (config : Config) : Except Mismatch Unit :=
  if Limits.copies config.toJson then .ok ()
  else .error (.tooDeep "maximum recursion depth exceeded")

/-- All settings in one table, in which custom settings override the others. -/
def toTable (config : Config) : Except Mismatch Table := do
  let custom ← config.custom.entries
  .ok ((Table.ofMembers config.settings).update custom)

/-- Sizes are below this number, and not below its negative. -/
def sizeLimit : Int := 9223372036854775808

/-- The indentation of one level: a tab, or as many spaces as the indent size says. -/
def indentUnit [Limits] (config : Config) : Except Mismatch String :=
  if config.useTabs.truthy then .ok "\t"
  else match config.indentSize with
    | .int n =>
      if n < -sizeLimit || sizeLimit ≤ n then
        .error (.outOfRange "cannot fit 'int' into an index-sized integer")
      else if Limits.length ≤ n then .error .tooLarge
      else .ok (String.ofList (List.replicate n.toNat ' '))
    | .bool b => .ok (if b then " " else "")
    | v => .error (.wrongType ("can't multiply sequence by non-int of type '" ++ v.typeName ++ "'"))

end Config

end DartRecords
