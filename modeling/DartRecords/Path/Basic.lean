import DartRecords.Text.Search

/-!
# Paths

A path is a root, if it is absolute, and the names along it.  Empty names and single points are
dropped when a path is read; two points stay, since only a file system can tell where they lead.
-/

namespace DartRecords

/-- A path with names separated by slashes. -/
structure Path where
  /-- Empty for a relative path, else one slash, or two where a text starts with exactly two. -/
  root : String := ""
  parts : List String := []
  deriving DecidableEq, Repr

namespace Path

/-- The names between the slashes of a text. -/
def splitSlashes (s : String) : List String :=
  (Text.splitAt '/' s.toList).map String.ofList

/-- The root of a text. -/
def rootOf (s : String) : String :=
  match s.toList with
  | '/' :: '/' :: '/' :: _ => "/"
  | '/' :: '/' :: _ => "//"
  | '/' :: _ => "/"
  | _ => ""

/-- Reads a path. -/
def ofString (s : String) : Path :=
  ⟨rootOf s, (splitSlashes s).filter fun part => part ≠ "" && part ≠ "."⟩

/-- The text of a path; the empty relative path is a point. -/
def toString (p : Path) : String :=
  let text := p.root ++ "/".intercalate p.parts
  if text.isEmpty then "." else text

/-- Whether a path is absolute. -/
def isAbsolute (p : Path) : Bool := !p.root.isEmpty

/-- A path below another one; an absolute path replaces it. -/
def append (p q : Path) : Path :=
  if q.isAbsolute then q else { p with parts := p.parts ++ q.parts }

/-- The last name of a path. -/
def name (p : Path) : String := p.parts.getLast?.getD ""

/-- The path without its last name. -/
def parent (p : Path) : Path := { p with parts := p.parts.dropLast }

/-- The path with another last name; none if it has no name at all. -/
def withName? (p : Path) (name : String) : Option Path :=
  if p.parts.isEmpty then none else some { p with parts := p.parts.dropLast ++ [name] }

/-- The extension of the last name: what follows its last point, that point included, unless the
point is the first or the last character. -/
def extension (p : Path) : String :=
  let name := p.name.toList
  let after := (name.reverse.takeWhile (· ≠ '.')).reverse
  if after.length + 1 < name.length && !after.isEmpty then String.ofList ('.' :: after) else ""

end Path

end DartRecords
