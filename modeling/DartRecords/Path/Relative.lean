import DartRecords.Path.Basic

/-!
# Relative paths

How to get from one directory to a file by names alone.  Paths are taken relative to a working
directory, given by the names from the root down to it, and two points lead one name back.
-/

namespace DartRecords.Path

/-- Follows names from a place, given by the names from the root down to it, last name first. -/
def follow : List String → List String → List String
  | place, [] => place
  | place, name :: rest =>
    if name = "" || name = "." then follow place rest
    else if name = ".." then follow place.tail rest
    else follow (name :: place) rest

/-- The names from the root down to what a text names. -/
def resolveNames (workingDirectory : List String) (path : String) : List String :=
  let start := if rootOf path = "" then workingDirectory.reverse else []
  (follow start (splitSlashes path)).reverse

/-- The part of two lists after their common beginning. -/
def dropCommon : List String → List String → List String × List String
  | a :: as, b :: bs => if a = b then dropCommon as bs else (a :: as, b :: bs)
  | as, bs => (as, bs)

/-- The names that lead from one place to another. -/
def namesBetween (start target : List String) : List String :=
  let (up, down) := dropCommon start target
  up.map (fun _ => "..") ++ down

/-- The text of the path from a directory to a file. -/
def relativeTo (workingDirectory : List String) (path directory : String) : String :=
  match namesBetween (resolveNames workingDirectory directory)
      (resolveNames workingDirectory path) with
  | [] => "."
  | names => "/".intercalate names

/-- The text before the last slash, without the slashes at its end unless it has nothing else. -/
def directoryOf (path : String) : String :=
  let head := (path.toList.reverse.dropWhile (· ≠ '/')).reverse
  let trimmed := (head.reverse.dropWhile (· = '/')).reverse
  String.ofList (if trimmed.isEmpty then head else trimmed)

end DartRecords.Path
