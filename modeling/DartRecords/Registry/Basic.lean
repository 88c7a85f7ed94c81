import DartRecords.Generation.Backend
import DartRecords.Text.Case

/-!
# Registries

A registry knows the backend of each language.  A language has one primary name and any number of
aliases; names are compared without regard to case.
-/

namespace DartRecords

/-- The backends by primary name and the primary names by alias, each in the order in which they
were registered. -/
structure Registry (m : Type → Type) where
  backends : List (String × Backend m) := []
  aliases : List (String × String) := []

namespace Registry

/-- Why a registry refuses a request. -/
inductive Error where
  | notABackend
  | aliasIsLanguage (name : String)
  | aliasTaken (name language : String)
  | unknownLanguage (name : String) (available : List String)
  | invalidConfig (typeName : String)
  | notCreated (name : String) (reason : String)
  | mismatch (cause : Mismatch)
  deriving DecidableEq, Repr

/-- The message of a refusal. -/
def Error.message : Error → String
  | .notABackend => "Generator class must inherit from CodeGenerator"
  | .aliasIsLanguage name => "Alias '" ++ name ++ "' conflicts with existing primary language"
  | .aliasTaken name language => "Alias '" ++ name ++ "' already points to '" ++ language ++ "'"
  | .unknownLanguage name available =>
    "No generator registered for language: " ++ name ++ ". Available: "
      ++ ", ".intercalate available
  | .invalidConfig typeName => "Invalid config type: <class '" ++ typeName ++ "'>"
  | .notCreated name reason => "Failed to create " ++ name ++ " generator: " ++ reason
  | .mismatch cause => cause.detail

variable {m : Type → Type}

/-- Sets an entry of a list by key: an existing one keeps its place, a new one goes last. -/
def setEntry {α : Type _} (key : String) (value : α) : List (String × α) → List (String × α)
  | [] => [(key, value)]
  | (k, v) :: rest =>
    if k = key then (key, value) :: rest else (k, v) :: setEntry key value rest

/-- Texts in the order of their characters. -/
def sorted (names : List String) : List String := names.mergeSort fun a b => !(b < a)

/-- The name by which a language is found. -/
def nameKey (name : String) : String := String.ofList (Text.lower name.toList)

/-- The text of a loose name. -/
def nameText : Json → Except Error String
  | .str name => .ok name
  | v => .error (.mismatch (v.lacking "lower"))

/-- Whether a key is a primary name. -/
def isPrimary (r : Registry m) (key : String) : Bool := (r.backends.lookup key).isSome

/-! ## Registering -/

/-- Adds an alias of a language.  Unless names may be replaced, an alias may be neither a primary
name nor an alias of another language. -/
def addAlias (r : Registry m) (language name : String) (replace : Bool) :
    Except Error (Registry m) :=
  let key := nameKey name
  if key = language then .ok r
  else if !replace && r.isPrimary key then .error (.aliasIsLanguage name)
  else match if replace then none else r.aliases.lookup key with
    | some target =>
      if target ≠ language then .error (.aliasTaken name target)
      else .ok { r with aliases := setEntry key language r.aliases }
    | none => .ok { r with aliases := setEntry key language r.aliases }

/-- Adds aliases one after another.  Those before the first that is refused are kept. -/
def addAliases (r : Registry m) (language : String) (replace : Bool) :
    List Json → Except Error Unit × Registry m
  | [] => (.ok (), r)
  | given :: rest =>
    match nameText given with
    | .error e => (.error e, r)
    | .ok name =>
      match r.addAlias language name replace with
      | .error e => (.error e, r)
      | .ok r => r.addAliases language replace rest

/-- The aliases that a loose value stands for. -/
def aliasList (aliases : Json) : Except Error (List Json) :=
  if aliases.truthy then aliases.items.mapError .mismatch else .ok []

/-- Registers a backend.  If the language has one, nothing is changed unless it may be replaced;
the entry for the log says so. -/
def register (r : Registry m) (language : Json) (backend : Option (Backend m))
    (aliases : Json := .null) (replace : Bool := false) :
    Except Error (Option Log.Entry) × Registry m :=
  match backend, nameText language with
  | none, _ => (.error .notABackend, r)
  | some _, .error e => (.error e, r)
  | some backend, .ok name =>
    let key := nameKey name
    if r.isPrimary key && !replace then
      (.ok (some { level := .debug, origin := .registry,
                   message := "Generator for " ++ key ++ " already registered" }), r)
    else
      let r := { r with backends := setEntry key backend r.backends }
      match aliasList aliases with
      | .error e => (.error e, r)
      | .ok names =>
        match r.addAliases key replace names with
        | (.error e, r) => (.error e, r)
        | (.ok (), r) => (.ok none, r)

/-! ## Looking up -/

/-- The primary names. -/
def languages (r : Registry m) : List String := sorted (r.backends.map (·.1))

/-- The primary name of a name. -/
def resolve (r : Registry m) (name : String) : Except Error String :=
  let key := nameKey name
  if r.isPrimary key then .ok key
  else match r.aliases.lookup key with
    | some language => .ok language
    | none => .error (.unknownLanguage name r.languages)

/-- The backend of a name, with the primary name. -/
def find (r : Registry m) (name : String) : Except Error (String × Backend m) := do
  let language ← r.resolve name
  match r.backends.lookup language with
  | some backend => .ok (language, backend)
  | none => .error (.mismatch (.missing language))

/-- The aliases of a primary name. -/
def aliasesOf (r : Registry m) (name : String) : List String :=
  sorted ((r.aliases.filter fun (_, language) => language = nameKey name).map (·.1))

/-- Whether a name is a primary name or an alias. -/
def isSupported (r : Registry m) (name : String) : Bool :=
  r.isPrimary (nameKey name) || (r.aliases.lookup (nameKey name)).isSome

end Registry

end DartRecords
