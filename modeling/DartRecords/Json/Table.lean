import DartRecords.Json.Equality
import DartRecords.Json.Printer

/-!
# Tables

A table maps values to values and keeps the order in which its keys were first set.  Any value but
a list or an object may be a key, and numbers that are equal are the same key.
-/

namespace DartRecords

/-- A table with loose keys. -/
abbrev Table := List (Json × Json)

namespace Table

/-- Sets an entry: an existing key stays as it is and keeps its place, a new one goes last. -/
def insert (key value : Json) : Table → Table
  | [] => [(key, value)]
  | (k, v) :: rest =>
    if k.sameKey key then (k, value) :: rest else (k, v) :: insert key value rest

/-- Sets the entries of another table, one after another. -/
def update (t : Table) (entries : Table) : Table :=
  entries.foldl (fun t (k, v) => insert k v t) t

/-- The table of an object's members. -/
def ofMembers (members : Json.Members) : Table := members.map fun (k, v) => (.str k, v)

/-- The entry that an item stands for: it has to have two parts, a key and a value. -/
def entryOf (index : Nat) (item : Json) : Except Mismatch (Json × Json) :=
  match item.items with
  | .error _ => .error (.wrongType ("cannot convert dictionary update sequence element #"
      ++ toString index ++ " to a sequence"))
  | .ok [key, value] =>
    if key.hashable then .ok (key, value)
    else .error key.unhashable
  | .ok parts => .error (.badValue ("dictionary update sequence element #" ++ toString index
      ++ " has length " ++ toString parts.length ++ "; 2 is required"))

/-- The entries of items, counted from an index. -/
def entriesFrom (index : Nat) : List Json → Except Mismatch Table
  | [] => .ok []
  | item :: rest => do
    let entry ← entryOf index item
    let more ← entriesFrom (index + 1) rest
    .ok (entry :: more)

/-- The entries that a value stands for: the members of an object, or items of two parts each. -/
def entriesOf : Json → Except Mismatch Table
  | .obj members => .ok (ofMembers members)
  | v => do
    let items ← v.items
    entriesFrom 0 items

/-- The table that a value stands for. -/
def ofJson (v : Json) : Except Mismatch Table := do
  let entries ← entriesOf v
  .ok (update [] entries)

/-- The text of a key in JSON. -/
def keyText : Json → String
  | .str s => s
  | v => v.toDense

/-- The table as members of an object, for writing. -/
def toMembers (t : Table) : Json.Members := t.map fun (k, v) => (keyText k, v)

end Table

end DartRecords
