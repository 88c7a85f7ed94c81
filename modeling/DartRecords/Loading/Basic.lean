import DartRecords.FileSystem.Document
import DartRecords.Json.Equality
import DartRecords.Log.Entry
import DartRecords.Text.Case
import DartRecords.Text.Search
import DartRecords.Url.Basic

/-!
# Loading documents

A document is a JSON text that comes from a file, from the web or from standard input.  A source
is announced in the log before it is read, since the log may be written into the very file that is
read.
-/

namespace DartRecords.Loading

/-- How a request fails. -/
inductive RequestFault where
  | timeout
  | connection
  /-- The reply has no response to it, although its status is what is wrong. -/
  | status
  | other
  deriving DecidableEq, Repr

/-- What comes of reading the body of a response as JSON.  It takes the bytes of a body to be some
text first, which is not done here; so any of these may come of it. -/
inductive BodyReading where
  | document (value : Json)
  /-- The body is no JSON; the message says where. -/
  | invalid (message : String)
  /-- Reading fails in another way. -/
  | failed (cause : Mismatch)
  deriving DecidableEq, Repr

/-- What comes of reading a body that is taken to be a text. -/
def BodyReading.ofText [Limits] [Json.LoneHalves] (cs : List Char) : BodyReading :=
  match parseDocument cs with
  | .ok value => .document value
  | .error (.json message) => .invalid message
  | .error (.refused cause) => .failed cause
  | .error (.encoding cause) => .failed (.badValue cause.message)
  | .error (.file cause) => .failed (.badValue cause.message)

/-- The outcome of a request. -/
inductive Reply where
  | fault (kind : RequestFault) (message : String)
  | response (status : Int) (headers : List (String × String)) (body : BodyReading)
  deriving DecidableEq, Repr

/-- Why a document cannot be loaded. -/
inductive Error where
  | fileNotFound (path : Path)
  | invalidFile (path : Path) (message : String)
  | unreadableFile (path : Path) (cause : FileError)
  | invalidUrl (url : String)
  | timeout (url : String)
  | connection (url : String)
  | httpStatus (status : Int) (url : String)
  | invalidResponse (url message : String)
  | request (url message : String)
  | invalidInput (message : String)
  | encoding (cause : Text.Utf8.Error)
  /-- It cannot even be told whether the file exists. -/
  | inaccessible (cause : FileError)
  | mismatch (cause : Mismatch)
  deriving DecidableEq, Repr

/-- The message of a failure. -/
def Error.message : Error → String
  | .fileNotFound path => "File not found: " ++ path.toString
  | .invalidFile path message => "Invalid JSON in file " ++ path.toString ++ ": " ++ message
  | .unreadableFile path cause =>
    "Error reading file " ++ path.toString ++ ": " ++ cause.message
  | .invalidUrl url => "Invalid URL: " ++ url
  | .timeout url => "Request timeout for URL: " ++ url
  | .connection url => "Connection error for URL: " ++ url
  | .httpStatus status url => "HTTP error " ++ toString status ++ " for URL: " ++ url
  | .invalidResponse url message => "Invalid JSON response from URL " ++ url ++ ": " ++ message
  | .request url message => "Request error for URL " ++ url ++ ": " ++ message
  | .invalidInput message => "Invalid JSON on standard input: " ++ message
  | .encoding cause => cause.message
  | .inaccessible cause => cause.message
  | .mismatch cause => cause.detail

/-- A document with a description of where it comes from. -/
structure Loaded where
  source : String
  document : Json
  deriving DecidableEq, Repr

/-- What happens while a document is loaded: the result, the log, and the URL that is asked for, if
one is. -/
structure Outcome where
  result : Except Error Loaded
  entries : List Log.Entry := []
  requested : Option String := none

/-- An entry of the log. -/
def entry (level : Log.Level) (message : String) : Log.Entry :=
  { level, origin := .loading, message }

/-- The log of a failure whose message is logged as it is. -/
def failed (e : Error) : List Log.Entry := [entry .error e.message]

variable [Limits] [Json.LoneHalves]

/-! ## Files -/

/-- Loads a file that exists, with what is logged then. -/
def readExisting (fs : FileSystem) (path : Path) : Except Error Loaded × List Log.Entry :=
  match fs.readJson path with
  | .ok document =>
    (.ok ⟨path.toString, document⟩, [entry .info ("Loaded input from " ++ path.toString)])
  | .error (.json message) =>
    let e := Error.invalidFile path message
    (.error e, failed e)
  | .error (.file .nullCharacter) =>
    (.error (.mismatch (.badValue FileError.nullCharacter.message)), [])
  | .error (.file cause) =>
    let e := Error.unreadableFile path cause
    (.error e, failed e)
  | .error (.encoding cause) => (.error (.encoding cause), [])
  | .error (.refused cause) => (.error (.mismatch cause), [])

/-- Loads a file that has been announced. -/
def fromFile (fs : FileSystem) (path : Path) : Outcome :=
  match fs.contains path with
  | .error cause => { result := .error (.inaccessible cause) }
  | .ok true =>
    let (result, entries) := readExisting fs path
    { result, entries }
  | .ok false =>
    let e := Error.fileNotFound path
    { result := .error e, entries := failed e }

/-! ## The web -/

/-- The value of a header; names are compared without regard to case, and the last one counts. -/
def headerValue (headers : List (String × String)) (name : String) : String :=
  ((headers.reverse.find? fun (n, _) => Text.lower n.toList = name.toList).map (·.2)).getD ""

/-- The warning about a response that does not claim to be JSON. -/
def contentTypeWarnings (url : String) (headers : List (String × String)) : List Log.Entry :=
  let contentType := Text.lower (headerValue headers "content-type").toList
  if Text.occursIn "application/json".toList contentType || url.endsWith ".json" then []
  else [entry .warning ("URL " ++ url ++ " does not have JSON content type: "
    ++ String.ofList contentType)]

/-- Whether a status is an error of the client or of the server. -/
def isErrorStatus (status : Int) : Bool := 400 ≤ status && status < 600

/-- Reads the response to a request. -/
def readResponse (url : String) (status : Int) (headers : List (String × String))
    (body : BodyReading) : Except Error Loaded × List Log.Entry :=
  if isErrorStatus status then
    let e := Error.httpStatus status url
    (.error e, failed e)
  else
    let warnings := contentTypeWarnings url headers
    match body with
    | .document document =>
      (.ok ⟨url, document⟩, warnings ++ [entry .info ("Loaded input from " ++ url)])
    | .invalid message =>
      let e := Error.invalidResponse url message
      (.error e, warnings ++ failed e)
    | .failed cause => (.error (.mismatch cause), warnings)

/-- Reads the reply to a request. -/
def readReply (url : String) : Reply → Except Error Loaded × List Log.Entry
  | .fault .timeout _ =>
    let e := Error.timeout url
    (.error e, failed e)
  | .fault .connection message =>
    (.error (.connection url),
      [entry .error ("Connection error for URL " ++ url ++ ": " ++ message)])
  | .fault .status _ => (.error (.mismatch (Json.null.lacking "status_code")), [])
  | .fault .other message =>
    let e := Error.request url message
    (.error e, failed e)
  | .response status headers body => readResponse url status headers body

/-- Loads a document from the web, from a URL that has been announced. -/
def fromUrl (reply : String → Reply) (url : String) : Outcome :=
  match Url.isWeb url with
  | .error cause => { result := .error (.mismatch cause) }
  | .ok false =>
    { result := .error (.invalidUrl url),
      entries := [entry .error ("Invalid URL format: " ++ url)] }
  | .ok true =>
    let (result, entries) := readReply url (reply url)
    { result, entries, requested := some url }

/-! ## Either of them, and standard input -/

/-- Where a document is loaded from. -/
inductive Source where
  | file (path : Path)
  | web (url : String)
  deriving DecidableEq, Repr

namespace Source

/-- The source of a text: a URL of the web, or else the path of a file. -/
def ofString (text : String) : Except Mismatch Source := do
  if ← Url.isWeb text then .ok (.web text) else .ok (.file (Path.ofString text))

/-- What is logged before a source is read. -/
def announcement : Source → Log.Entry
  | .file path => entry .debug ("Loading input from file: " ++ path.toString)
  | .web url => entry .debug ("Loading input from URL: " ++ url)

/-- Loads a document from a source that has been announced. -/
def load (fs : FileSystem) (reply : String → Reply) : Source → Outcome
  | .file path => fromFile fs path
  | .web url => fromUrl reply url

/-- Announces a source and loads a document from it. -/
def announceAndLoad (fs : FileSystem) (reply : String → Reply) (source : Source) : Outcome :=
  let outcome := source.load fs reply
  { outcome with entries := source.announcement :: outcome.entries }

end Source

/-- Loads a document from the source of a text. -/
def fromSource (fs : FileSystem) (reply : String → Reply) (text : String) : Outcome :=
  match Source.ofString text with
  | .error cause => { result := .error (.mismatch cause) }
  | .ok source => source.announceAndLoad fs reply

/-- Reads a document from the text of standard input. -/
def fromInput (text : String) : Except Error Loaded :=
  match parseDocument text.toList with
  | .ok document => .ok ⟨"<stdin>", document⟩
  | .error (.json message) => .error (.invalidInput message)
  | .error (.refused cause) => .error (.mismatch cause)
  | .error (.encoding cause) => .error (.encoding cause)
  | .error (.file cause) => .error (.mismatch (.badValue cause.message))

end DartRecords.Loading
