import DartRecords.Json.Display
import DartRecords.Json.Equality
import DartRecords.Naming.Style

/-!
# Avoiding reserved names

A sanitizer brings names into a case style and appends a suffix to those that would collide: when
the resulting name is reserved, or when the given name starts or ends with a reserved marker.

Results are kept in a cache.  Its key is one text made of the name and of all options, joined by
bars, so two requests whose joined texts are equal share an entry.
-/

namespace DartRecords.Naming

/-- The names that may not be used as they are; they are expected to be texts. -/
structure Sanitizer where
  reserved : List Json := []
  builtins : List Json := []
  deriving DecidableEq, Repr

/-- A name to sanitize, with the options.  The members are loose values; a name is expected to be
a text, the markers to be absent or lists of texts. -/
structure Request where
  name : Json
  style : Style := .lowerCamel
  /-- What is appended on a conflict. -/
  suffix : Json := .str "_"
  /-- Beginnings of names that are conflicts. -/
  reservedHeads : Json := .null
  /-- Endings of names that are conflicts. -/
  reservedTails : Json := .null
  deriving DecidableEq, Repr

/-- The key under which the result of a request is kept. -/
def Request.cacheKey (r : Request) : String :=
  "|".intercalate [r.name.display, r.style.name, r.suffix.display, r.reservedHeads.display,
    r.reservedTails.display]

/-- Results of earlier requests. -/
abbrev Cache := List (String × String)

namespace Sanitizer

/-- The sanitizer of texts. -/
def ofTexts (reserved builtins : List String) : Sanitizer := ⟨reserved.map .str, builtins.map .str⟩

/-- The items of a value, all of which may be looked up in a table. -/
def wordsOf (v : Json) : Except Mismatch (List Json) := do
  let items ← v.items
  match items.find? fun item => !item.hashable with
  | some item => .error item.unhashable
  | none => .ok items

/-- The sanitizer of the items of loose values. -/
def ofValues (reserved builtins : Json) : Except Mismatch Sanitizer := do
  let reserved ← wordsOf reserved
  let builtins ← wordsOf builtins
  .ok ⟨reserved, builtins⟩

/-- Whether a name may not be used. -/
def isReserved (s : Sanitizer) (name : Json) : Bool :=
  s.reserved.any (·.sameKey name) || s.builtins.any (·.sameKey name)

/-- Whether a loose value may not be used as a name; a list or an object cannot be looked up. -/
def checkReserved (s : Sanitizer) (name : Json) : Except Mismatch Bool :=
  if name.hashable then .ok (s.isReserved name) else .error name.unhashable

/-- Whether one of the markers matches; they are tried in order. -/
def anyMarker (fits : List Char → Bool) : List Json → Except Mismatch Bool
  | [] => .ok false
  | .str marker :: rest => if fits marker.toList then .ok true else anyMarker fits rest
  | v :: _ => .error (.wrongType ("expected a text, not " ++ v.typeName))

/-- Whether one of the markers matches; absent or empty markers never do. -/
def marked (fits : List Char → Bool) (markers : Json) : Except Mismatch Bool :=
  if !markers.truthy then .ok false
  else match markers.items with
    | .error e => .error e
    | .ok items => anyMarker fits items

/-- The answer to a request, computed afresh. -/
def resolve (s : Sanitizer) (r : Request) : Except Mismatch String := do
  let name ← r.name.text
  let converted := String.ofList (restyle r.style name.toList)
  let byHead ← marked (·.isPrefixOf name.toList) r.reservedHeads
  let byTail ← marked (·.isSuffixOf name.toList) r.reservedTails
  let conflict := s.isReserved (.str converted) || byHead || byTail
  .ok (if conflict then converted ++ r.suffix.display else converted)

/-- The answer to a request, taken from the cache if its key is there, and the cache after it. -/
def sanitize (s : Sanitizer) (r : Request) (cache : Cache) : Except Mismatch String × Cache :=
  match cache.lookup r.cacheKey with
  | some answer => (.ok answer, cache)
  | none =>
    match s.resolve r with
    | .ok answer => (.ok answer, (r.cacheKey, answer) :: cache)
    | .error e => (.error e, cache)

end Sanitizer

end DartRecords.Naming
