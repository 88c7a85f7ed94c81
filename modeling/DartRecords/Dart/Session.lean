import DartRecords.Dart.Spelling
import DartRecords.Log.Entry

/-!
# Generation sessions

While code is generated, names and type spellings that have been asked for are remembered, and
log entries are collected.  A session is that memory.  What a step has remembered stays
remembered when the step fails.
-/

namespace DartRecords.Dart

open Schema (Record Ty)

/-- What is remembered during generation. -/
structure Session where
  names : NameCaches := {}
  /-- The spellings of the current file. -/
  spellings : List (SpellingKey × String) := []
  /-- The log entries so far, the last one first. -/
  entries : List Log.Entry := []
  deriving DecidableEq, Repr

/-- A step of generation. -/
abbrev Gen := ExceptT Error (StateM Session)

namespace Session

/-- Adds a log entry. -/
def add (entry : Log.Entry) (s : Session) : Session := { s with entries := entry :: s.entries }

/-- Makes a log entry. -/
def log (level : Log.Level) (origin : Log.Origin) (message : String) : Gen Unit :=
  modify (add { level, origin, message })

/-- The answer of a sanitizer, remembered in one of the caches. -/
def sanitized (sanitizer : Naming.Sanitizer) (request : Naming.Request)
    (cacheOf : NameCaches → Naming.Cache) (store : NameCaches → Naming.Cache → NameCaches) :
    Gen String := do
  let s ← get
  let (result, cache) := sanitizer.sanitize request (cacheOf s.names)
  set { s with names := store s.names cache }
  lift (ofValue result)

/-- The Dart property of a struct field, remembered. -/
def fieldName (name : Json) : Gen String :=
  sanitized fieldSanitizer (fieldRequest name) (·.fields)
    fun names cache => { names with fields := cache }

/-- The Dart member of an enum variant, remembered. -/
def variantName (name : Json) : Gen String :=
  sanitized variantSanitizer (variantRequest name) (·.variants)
    fun names cache => { names with variants := cache }

/-- The top-level Dart variable of a constant, remembered. -/
def constantName (name : Json) : Gen String :=
  sanitized constantSanitizer (constantRequest name) (·.constants)
    fun names cache => { names with constants := cache }

/-- A spelling from memory, or else a new one, which is then remembered. -/
def remember (key : SpellingKey) (compute : Gen String) : Gen String := do
  match (← get).spellings.lookup key with
  | some spelt => pure spelt
  | none =>
    let spelt ← compute
    modify fun s => { s with spellings := (key, spelt) :: s.spellings }
    pure spelt

/-- The Dart type of a type whose key paths may serve as keys of a table; the spellings of all
its parts are remembered. -/
def spell (scope : Scope) : Flavor → Option Bool → Ty → Gen String :=
  spellWith scope (fun record => lift (scope.className record)) remember

/-- The Dart type of a type, remembered.  A key path with a list or an object in it has none. -/
def dartType (scope : Scope) (type : Ty) (flavor : Flavor) (allFrozen : Option Bool) :
    Gen String :=
  if type.hashable then spell scope flavor allFrozen type
  else throw (.mismatch type.unhashable)

end Session

/-! ## Where names and spellings come from -/

/-- A source of Dart names. -/
structure Namer (m : Type → Type) where
  fieldName : Json → m String
  variantName : Json → m String
  constantName : Json → m String

/-- A source of names and type spellings for the file of one module.  Code is written against
such a source, so that it is the same whether names are remembered or computed afresh. -/
structure Speller (m : Type → Type) extends Namer m where
  scope : Scope
  /-- The frozen Dart class of a record. -/
  className : Record → m String
  dartType : Ty → Flavor → Option Bool → m String

/-- Names that are remembered in the session. -/
def Namer.remembering : Namer Gen where
  fieldName := Session.fieldName
  variantName := Session.variantName
  constantName := Session.constantName

/-- Names that are computed afresh. -/
def Namer.plain : Namer (Except Error) where
  fieldName name := ofValue (Dart.fieldName name)
  variantName name := ofValue (Dart.variantName name)
  constantName name := ofValue (Dart.constantName name)

/-- Names and spellings that are remembered in the session. -/
def Speller.remembering (scope : Scope) : Speller Gen :=
  { Namer.remembering with
    scope
    className := fun record => lift (scope.className record)
    dartType := Session.dartType scope }

/-- Names and spellings that are computed afresh. -/
def Speller.plain (scope : Scope) : Speller (Except Error) :=
  { Namer.plain with
    scope
    className := scope.className
    dartType := fun type flavor allFrozen => Dart.dartType scope type flavor allFrozen }

end DartRecords.Dart
