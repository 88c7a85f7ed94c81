/-!
# Options of the command

The command has switches, options that take a value, and two options that end it at once.  Most
have one long name; some have a short name too.
-/

namespace DartRecords.CommandLine

/-- An option without a value. -/
inductive Switch where
  | stdin
  | stdout
  | useTabs
  | noBanner
  | noConstants
  | listLanguages
  | verbose
  deriving DecidableEq, Repr

/-- An option with a value. -/
inductive Setting where
  | outputDir
  | language
  | config
  | indentSize
  | clientPackage
  | saveConfig
  | languageInfo
  | logLevel
  | logFile
  deriving DecidableEq, Repr

/-- What an option asks for. -/
inductive Action where
  | help
  | version
  | switch (switch : Switch)
  | setting (setting : Setting)
  deriving DecidableEq, Repr

/-- The names of each option.  Ambiguous abbreviations are reported in this order. -/
def options : List (Action × List String) :=
  [(.help, ["-h", "--help"]),
   (.switch .stdin, ["--stdin"]),
   (.setting .outputDir, ["--output-dir", "-o"]),
   (.switch .stdout, ["--stdout"]),
   (.setting .language, ["--language", "-l"]),
   (.setting .config, ["--config"]),
   (.setting .indentSize, ["--indent-size"]),
   (.switch .useTabs, ["--use-tabs"]),
   (.switch .noBanner, ["--no-banner"]),
   (.switch .noConstants, ["--no-constants"]),
   (.setting .clientPackage, ["--client-package"]),
   (.setting .saveConfig, ["--save-config"]),
   (.switch .listLanguages, ["--list-languages"]),
   (.setting .languageInfo, ["--language-info"]),
   (.switch .verbose, ["--verbose", "-v"]),
   (.setting .logLevel, ["--log-level"]),
   (.setting .logFile, ["--log-file"]),
   (.version, ["--version"])]

/-- The option of each name. -/
def namedOptions : List (String × Action) :=
  options.flatMap fun (action, names) => names.map fun name => (name, action)

/-- The option of a name. -/
def action? (name : String) : Option Action := namedOptions.lookup name

/-- All names of an option, as messages give them. -/
def Action.title (action : Action) : String :=
  "/".intercalate ((options.lookup action).getD [])

/-- Whether an option takes a value. -/
def Action.takesValue : Action → Bool
  | .setting _ => true
  | _ => false

end DartRecords.CommandLine
