import DartRecords.Dart.Literal
import DartRecords.Path.Basic

/-!
# Templates

The fixed parts of generated files are templates: text with places for values, parts that appear
only when a value counts as present, and parts that are repeated for each item of a value.  The
values come from a context of named values.  A name that the context does not have stands for
nothing: it is written as the empty text, does not count as present, and has no items.
-/

namespace DartRecords.Dart

/-- Where a value in a template comes from. -/
inductive Place where
  /-- A value of the context. -/
  | named (name : String)
  /-- A member of the current item of a repeated part. -/
  | ofItem (member : String)
  deriving DecidableEq, Repr

/-- A piece of a template. -/
inductive Piece where
  | text (content : String)
  /-- The display text of a value. -/
  | value (place : Place)
  /-- The Dart literal of the display text of a value. -/
  | literal (place : Place)
  /-- Pieces that appear when a value counts as present. -/
  | whenPresent (name : String) (body : List Piece)
  /-- Pieces that are repeated for each item of a value. -/
  | forEach (name : String) (body : List Piece)

/-- A template with its name. -/
structure Template where
  name : String
  body : List Piece

namespace Template

/-- The value at a place; a value that is no object has no members. -/
def valueAt (context : Json.Members) (item : Json) : Place → Option Json
  | .named name => context.lookup name
  | .ofItem member => item.member? member

mutual

/-- Renders a piece. -/
def renderPiece (context : Json.Members) (item : Json) : Piece → Except Mismatch String
  | .text content => .ok content
  | .value place => .ok (((valueAt context item place).map Json.display).getD "")
  | .literal place => .ok (Dart.literal ((valueAt context item place).getD (.str "")))
  | .whenPresent name body =>
    if ((context.lookup name).map Json.truthy).getD false then renderPieces context item body
    else .ok ""
  | .forEach name body =>
    match context.lookup name with
    | none => .ok ""
    | some v =>
      match v.items with
      | .error e => .error e
      | .ok items => do
        let texts ← items.mapM fun each => renderPieces context each body
        .ok (String.join texts)

/-- Renders pieces one after another. -/
def renderPieces (context : Json.Members) (item : Json) : List Piece → Except Mismatch String
  | [] => .ok ""
  | piece :: rest => do
    let head ← renderPiece context item piece
    let tail ← renderPieces context item rest
    .ok (head ++ tail)

end

/-- Renders a template. -/
def render (template : Template) (context : Json.Members) : Except Mismatch String :=
  renderPieces context .null template.body

/-! ## The templates of Dart files -/

/-- The lines of the picture in the banner. -/
def bannerPicture : List String :=
  ["//  ______                        _               _  _  _",
   "//  |  _  \\                      | |             | |(_)| |",
   "//  | | | |  ___    _ __    ___  | |_    ___   __| | _ | |_",
   "//  | | | | / _ \\  | '_ \\  / _ \\ | __|  / _ \\ / _` || || __|",
   "//  | |/ / | (_) | | | | || (_) || |_  |  __/| (_| || || |_",
   "//  |___/   \\___/  |_| |_| \\___/  \\__|  \\___| \\__,_||_| \\__|"]

/-- The banner: the picture, and how to get the client library. -/
def banner : Piece :=
  .whenPresent "add_banner"
    [.text (String.join (bannerPicture.map (· ++ "\n"))),
     .text "//\n\n// To install the ",
     .value (.named "client_package"),
     .text " client library:\n//   dart pub add ",
     .value (.named "client_package"),
     .text "\n\n"]

/-- The import of another generated file. -/
def importPieces : List Piece :=
  [.text "import \"",
   .value (.ofItem "path"),
   .text "\" as ",
   .value (.ofItem "alias"),
   .text ";\n"]

/-- The imports of other generated files, after an empty line. -/
def importLines : Piece := .whenPresent "imports" [.text "\n", .forEach "imports" importPieces]

/-- The start of every file: the banner, the imports of the core and client libraries, and those of
other generated files. -/
def preamble : Template where
  name := "preamble.dart.j2"
  body :=
    [banner,
     .text "import \"dart:core\" as _core;\n",
     .text "import \"package:",
     .value (.named "client_package"),
     .text "/",
     .value (.named "client_package"),
     .text ".dart\" as _soia;\n",
     importLines,
     .text "\n"]

/-- The descriptor of a method. -/
def method : Template where
  name := "method.dart.j2"
  body :=
    [.text "final _soia.Method<\n",
     .value (.named "request_type"),
     .text ",\n",
     .value (.named "response_type"),
     .text "\n> ",
     .value (.named "name"),
     .text " =\n_soia.Method(\n",
     .literal (.named "method_name"),
     .text ",\n",
     .value (.named "number"),
     .text ",\n",
     .value (.named "request_serializer"),
     .text ",\n",
     .value (.named "response_serializer"),
     .text ",\n);\n\n"]

/-- The declaration of a constant. -/
def constant : Template where
  name := "constant.dart.j2"
  body :=
    [.text "final ",
     .value (.named "type"),
     .text " ",
     .value (.named "name"),
     .text " =\n",
     .value (.named "serializer"),
     .text ".fromJsonCode(",
     .literal (.named "dense_json"),
     .text ");\n\n"]

/-! ## Finding templates by name -/

/-- A collection of templates in which templates are found by their names. -/
abbrev Library := List Template

/-- The templates of Dart files. -/
def dartLibrary : Library := [preamble, method, constant]

/-- The name under which a template is looked up: empty names and points along it are dropped,
and it may not lead upwards. -/
def lookupName? (name : String) : Option String :=
  let parts := (Path.splitSlashes name).filter fun part => part ≠ "" && part ≠ "."
  if parts.contains ".." then none else some ("/".intercalate parts)

/-- The template of a name. -/
def Library.find? (library : Library) (name : String) : Option Template :=
  (lookupName? name).bind fun key => List.find? (fun template => template.name = key) library

/-- Why a template cannot be rendered. -/
inductive Error where
  | unknown (name : String)
  /-- The name leads upwards. -/
  | outside (name : String)
  | failed (name : String) (cause : Mismatch)
  deriving DecidableEq, Repr

/-- The message about a template that cannot be rendered. -/
def Error.message : Error → String
  | .unknown name => "Failed to render template " ++ name ++ ": " ++ name
  | .outside name => "Failed to render template " ++ name ++ ": " ++ name
  | .failed name cause => "Failed to render template " ++ name ++ ": " ++ cause.detail

/-- The members of a loose context.  The name of the template itself may not be among them. -/
def contextOf : Json → Except Mismatch Json.Members
  | .obj members =>
    if (members.lookup "self").isSome then
      .error (.wrongType "Template.render() got multiple values for argument 'self'")
    else .ok members
  | v => .error (.wrongType
      ("jinja2.environment.Template.render() argument after ** must be a mapping, not "
        ++ v.typeName))

/-- Renders the template of a name in a loose context. -/
def Library.render (library : Library) (name : String) (context : Json) : Except Error String :=
  match library.find? name with
  | none => .error (if (lookupName? name).isNone then .outside name else .unknown name)
  | some template => do
    let members ← (contextOf context).mapError (.failed name)
    (template.render members).mapError (.failed name)

end Template

end DartRecords.Dart
