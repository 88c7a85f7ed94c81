import DartRecords.Config.Store
import DartRecords.Registry.Basic

/-!
# Configured backends

Making a backend ready for use, with a configuration that is given as such, as a file, or as
settings that change the defaults.
-/

namespace DartRecords.Registry

variable {m : Type → Type}

/-- Where the configuration of a backend comes from. -/
inductive ConfigSource where
  | config (config : Config)
  /-- A text names a file, an object gives settings, and null stands for the defaults. -/
  | value (v : Json)
  deriving DecidableEq, Repr

/-- A backend with its configuration. -/
structure Configured (m : Type → Type) where
  backend : Backend m
  config : Config

/-- The complaint about a backend that lacks parts. -/
def missingPartsText (backend : Backend m) : Option String :=
  if backend.missingParts.isEmpty then none
  else some ("Can't instantiate abstract class " ++ backend.className ++ " with abstract methods "
    ++ ", ".intercalate backend.missingParts)

/-- Gives a backend its configuration, which is impossible if it lacks parts. -/
def instantiate (backend : Backend m) (config : Config) : Except Mismatch (Configured m) :=
  match missingPartsText backend with
  | some text => .error (.wrongType text)
  | none => .ok ⟨backend, config⟩

/-- Loads the configuration of a language from a source. -/
def loadConfig [Limits] [Json.LoneHalves] (fs : FileSystem) (language name : String) :
    ConfigSource → Except Error Config
  | .config config => .ok config
  | .value v =>
    let loaded (settings file : Json) : Except Error Config :=
      (Config.load fs (.str language) settings file).mapError fun e =>
        .notCreated name e.message
    match v with
    | .str path => loaded .null (.str path)
    | .obj members => loaded (.obj members) .null
    | .null => loaded .null .null
    | v => .error (.invalidConfig v.typeName)

/-- Makes a backend for a name. -/
def create [Limits] [Json.LoneHalves] (r : Registry m) (fs : FileSystem) (name : String)
    (source : ConfigSource) :
    Except Error (Configured m) := do
  let (language, backend) ← r.find name
  let config ← loadConfig fs language name source
  (instantiate backend config).mapError fun cause => .notCreated name cause.detail

/-- What is known about a language. -/
structure LanguageInfo where
  name : String
  className : String
  extension : String
  aliases : List String
  moduleName : String
  deriving DecidableEq, Repr

/-- What is known about the language of a name. -/
def info (r : Registry m) (name : String) : Except Error LanguageInfo := do
  let (language, backend) ← r.find name
  match missingPartsText backend with
  | some text => .error (.mismatch (.wrongType text))
  | none =>
    .ok { name := backend.language, className := backend.className,
          extension := backend.extension, aliases := r.aliasesOf language,
          moduleName := backend.moduleName }

/-- The registry with the backends of this library. -/
def standard [Limits] (workingDirectory : List String) : Registry Dart.Gen :=
  (register {} (.str "dart") (some (.dart workingDirectory)) (.arr [.str "flutter"])).2

end DartRecords.Registry
