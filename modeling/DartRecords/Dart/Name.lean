import DartRecords.Dart.Reserved
import DartRecords.Naming.Sanitizer

/-!
# Dart names

The names that generated code gives to struct fields, enum variants, constants, classes and
imported modules.  The first three avoid reserved names and are remembered in one cache each.
-/

namespace DartRecords.Dart

/-! ## Members and variables -/

/-- The sanitizer of struct fields. -/
def fieldSanitizer : Naming.Sanitizer :=
  .ofTexts keywords (objectMembers ++ structMembers)

/-- The sanitizer of enum variants. -/
def variantSanitizer : Naming.Sanitizer :=
  .ofTexts keywords (objectMembers ++ enumMembers)

/-- The sanitizer of constants. -/
def constantSanitizer : Naming.Sanitizer := .ofTexts keywords []

/-- What is asked about a struct field: a name like that of a generated accessor is a conflict. -/
def fieldRequest (name : Json) : Naming.Request :=
  { name, reservedHeads := .arr [.str "mutable_"] }

/-- What is asked about an enum variant: a name like that of a generated factory is a conflict. -/
def variantRequest (name : Json) : Naming.Request :=
  { name, reservedHeads := .arr [.str "wrap_", .str "create_"] }

/-- What is asked about a constant: a name like that of a method is a conflict. -/
def constantRequest (name : Json) : Naming.Request :=
  { name, reservedTails := .arr [.str "_METHOD"] }

/-- The Dart property of a struct field. -/
def fieldName (name : Json) : Except Mismatch String := fieldSanitizer.resolve (fieldRequest name)

/-- The Dart member of an enum variant. -/
def variantName (name : Json) : Except Mismatch String :=
  variantSanitizer.resolve (variantRequest name)

/-- The top-level Dart variable of a constant. -/
def constantName (name : Json) : Except Mismatch String :=
  constantSanitizer.resolve (constantRequest name)

/-- The names that have been asked for so far. -/
structure NameCaches where
  fields : Naming.Cache := []
  variants : Naming.Cache := []
  constants : Naming.Cache := []
  deriving DecidableEq, Repr

/-- A name in upper camel case. -/
def upperCamel (name : Json) : Except Mismatch String :=
  match name.text with
  | .ok s => .ok (String.ofList (Naming.restyle .upperCamel s.toList))
  | .error e => .error e

/-! ## Modules -/

/-- The extension of schema files. -/
def schemaExtension : List Char := ".soia".toList

/-- Replaces the schema extension at the end of a path, where one newline may follow it. -/
def replaceExtension (replacement path : List Char) : List Char :=
  if schemaExtension.isSuffixOf path then
    path.take (path.length - schemaExtension.length) ++ replacement
  else if (schemaExtension ++ ['\n']).isSuffixOf path then
    path.take (path.length - schemaExtension.length - 1) ++ replacement ++ ['\n']
  else path

/-- The path of the source file that is generated for a module. -/
def outputPath (modulePath : String) : String :=
  String.ofList (replaceExtension ".dart".toList modulePath.toList)

/-- Marks the path of a module of another package. -/
def markExternal : List Char → List Char
  | '@' :: rest => "external/".toList ++ rest
  | path => path

/-- The alias under which a generated module is imported. -/
def moduleAlias (modulePath : String) : String :=
  let path := markExternal (replaceExtension [] modulePath.toList)
  "_lib_" ++ String.ofList (path.map fun c => if c = '/' || c = '-' then '_' else c)

end DartRecords.Dart
