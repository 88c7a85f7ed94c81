import DartRecords.Loading.Basic
import DartRecords.Log.Logger

/-!
# The console

What a run of the command works on: the file system, the logger, and what has been printed, logged
and asked of the web so far.
-/

namespace DartRecords.CommandLine

/-- What is printed.  Texts may hold style tags in square brackets. -/
inductive Printed where
  | text (content : String)
  | table (title : String) (columns : List String) (rows : List (List String))
  | panel (title content : String)
  | listing (code language : String)
  deriving DecidableEq, Repr

/-- The state of a run; lists have the last item first. -/
structure Console where
  files : FileSystem
  logger : Log.Logger := {}
  printed : List Printed := []
  entries : List Log.Entry := []
  requests : List String := []
  deriving DecidableEq, Repr

/-- A fault that ends the command without a report of its own. -/
inductive Fault where
  | mismatch (cause : Mismatch)
  | encoding (cause : Text.Utf8.Error)
  | file (cause : FileError)
  deriving DecidableEq, Repr

/-- The message of a fault. -/
def Fault.message : Fault → String
  | .mismatch cause => cause.detail
  | .encoding cause => cause.message
  | .file cause => cause.message

/-- Why a step fails. -/
inductive Failure where
  /-- The failure is printed and logged, and the command ends with an error. -/
  | reported (message : String)
  | fault (cause : Fault)
  deriving DecidableEq, Repr

/-- A step of the command. -/
abbrev Run := ExceptT Failure (StateM Console)

namespace Run

/-- Prints something. -/
def print (p : Printed) : Run Unit := modify fun c => { c with printed := p :: c.printed }

/-- Prints a text. -/
def say (content : String) : Run Unit := print (.text content)

/-- Logs an entry, if its level is enabled. -/
def log (e : Log.Entry) : Run Unit := modify fun c =>
  if c.logger.isEnabled e.level.number then
    { c with
      entries := e :: c.entries
      files := c.logger.write c.files e.origin.name e.level.number e.message }
  else c

/-- Ends the command with a failure that is reported. -/
def fail {α : Type} (message : String) : Run α := throw (.reported message)

/-- Goes on with a value, unless the operation was not defined on it. -/
def ofValue {α : Type} : Except Mismatch α → Run α
  | .ok a => pure a
  | .error cause => throw (.fault (.mismatch cause))

end Run

end DartRecords.CommandLine
