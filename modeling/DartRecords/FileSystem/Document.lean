import DartRecords.FileSystem.Basic
import DartRecords.Json.Parser

/-!
# JSON files

Reading a file as JSON: its bytes are decoded, its line endings are unified, and the text is
parsed.
-/

namespace DartRecords

/-- Why a file is no JSON file. -/
inductive DocumentError where
  | file (cause : FileError)
  | encoding (cause : Text.Utf8.Error)
  /-- The text is no JSON; the message names the position. -/
  | json (message : String)
  /-- The text may be JSON, but it goes beyond what the reader takes on. -/
  | refused (cause : Mismatch)
  deriving DecidableEq, Repr

variable [Limits] [Json.LoneHalves]

/-- Reads a text as JSON. -/
def parseDocument (cs : List Char) : Except DocumentError Json :=
  match Json.parseChars cs with
  | .ok v => .ok v
  | .error e =>
    match e.refusal? with
    | some cause => .error (.refused cause)
    | none => .error (.json (e.message cs))

/-- Reads a file as JSON. -/
def FileSystem.readJson (fs : FileSystem) (p : Path) : Except DocumentError Json :=
  match fs.read p with
  | .error e => .error (.file e)
  | .ok bytes =>
    match Text.Utf8.decode bytes with
    | .error e => .error (.encoding e)
    | .ok cs => parseDocument (Text.Utf8.unifyNewlines cs)

end DartRecords
