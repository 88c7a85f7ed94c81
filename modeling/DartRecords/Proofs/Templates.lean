import DartRecords.Dart.SourceFile
import DartRecords.Proofs.ListRelations

/-!
# Literals and rendered templates

A literal stands on one line (`newline_not_mem_stringLiteral`).  The text of each template of a Dart
file, in the context in which it is rendered, is given line by line.
-/

namespace DartRecords.Dart

open Text (replaceChar)

/-! ## Literals -/

theorem newline_not_mem_hexPadded : ∀ n < 0x20, '\n' ∉ Text.hexPadded 4 n := by decide

theorem newline_not_mem_escapeChar (c : Char) : '\n' ∉ Json.escapeChar c := by
  by_cases hquote : (c = '"' || c = '\\') = true
  · have hc : c ≠ '\n' := by
      rintro rfl
      exact absurd hquote (by decide)
    rw [Json.escapeChar, if_pos hquote]
    simp [Ne.symm hc]
  · by_cases hnewline : c = '\n'
    · subst hnewline
      decide
    · rw [Json.escapeChar, if_neg hquote, if_neg hnewline]
      split_ifs with _ _ _ _ hcontrol
      · decide
      · decide
      · decide
      · decide
      · simp [newline_not_mem_hexPadded _ hcontrol]
      · simp [Ne.symm hnewline]

/-- What stands between the quotes of the literal of a text. -/
def literalBody (cs : List Char) : List Char :=
  replaceChar '$' ['\\', '$'] (cs.flatMap Json.escapeChar)

theorem stringLiteral_eq (cs : List Char) :
    stringLiteral cs = '"' :: literalBody cs ++ ['"'] := by
  simp [stringLiteral, Json.stringText, literalBody, replaceChar]

/-- A literal is written on one line, whatever its text is. -/
theorem newline_not_mem_stringLiteral (cs : List Char) : '\n' ∉ stringLiteral cs := by
  have hbody : '\n' ∉ literalBody cs := by
    intro hmem
    obtain ⟨c, hc, hmem⟩ := List.mem_flatMap.1 hmem
    split at hmem
    · exact absurd hmem (by decide)
    · rw [← List.mem_singleton.1 hmem] at hc
      obtain ⟨d, -, hd⟩ := List.mem_flatMap.1 hc
      exact newline_not_mem_escapeChar d hd
  rw [stringLiteral_eq]
  simp [hbody]

end DartRecords.Dart

namespace DartRecords.Dart.Template

/-- The declaration of a constant. -/
theorem render_constant (type name serializer dense : String) :
    constant.render
      [("name", .str name), ("type", .str type), ("serializer", .str serializer),
       ("dense_json", .str dense)] =
    .ok ("final " ++ type ++ " " ++ name ++ " =\n" ++ serializer ++ ".fromJsonCode("
      ++ String.ofList (stringLiteral dense.toList) ++ ");\n\n") := by
  have hpieces : constant.render
      [("name", .str name), ("type", .str type), ("serializer", .str serializer),
       ("dense_json", .str dense)] =
      .ok ("final " ++ (type ++ (" " ++ (name ++ (" =\n" ++ (serializer ++ (".fromJsonCode("
        ++ (String.ofList (stringLiteral dense.toList) ++ (");\n\n" ++ ""))))))))) := rfl
  rw [hpieces]
  simp only [String.append_assoc, String.append_empty]

/-- The descriptor of a method, line by line. -/
theorem render_method (name : String) (number : Int)
    (request response requestSerializer responseSerializer : String) :
    method.render
      [("name", .str name), ("method_name", .str name), ("number", .int number),
       ("request_type", .str request), ("response_type", .str response),
       ("request_serializer", .str requestSerializer),
       ("response_serializer", .str responseSerializer)] =
    .ok ("final _soia.Method<\n" ++ (request ++ ",\n") ++ (response ++ "\n") ++
      ("> " ++ name ++ " =\n")
      ++ "_soia.Method(\n" ++ (String.ofList (stringLiteral name.toList) ++ ",\n")
      ++ ((Json.int number).display ++ ",\n") ++ (requestSerializer ++ ",\n")
      ++ (responseSerializer ++ ",\n") ++ ");\n\n") := by
  have hpieces : method.render
      [("name", .str name), ("method_name", .str name), ("number", .int number),
       ("request_type", .str request), ("response_type", .str response),
       ("request_serializer", .str requestSerializer),
       ("response_serializer", .str responseSerializer)] =
      .ok ("final _soia.Method<\n" ++ (request ++ (",\n" ++ (response ++ ("\n> " ++ (name ++
        (" =\n_soia.Method(\n" ++ (String.ofList (stringLiteral name.toList) ++ (",\n" ++
        ((Json.int number).display ++
          (",\n" ++ (requestSerializer ++ (",\n" ++ (responseSerializer ++
        (",\n);\n\n" ++ ""))))))))))))))) := rfl
  have hclose : "\n> " = "\n" ++ "> " := by decide
  have hcall : " =\n_soia.Method(\n" = " =\n" ++ "_soia.Method(\n" := by decide
  have hend : ",\n);\n\n" = ",\n" ++ ");\n\n" := by decide
  rw [hpieces, hclose, hcall, hend]
  simp only [String.append_assoc, String.append_empty]

/-! ## The preamble -/

/-- The banner, line by line. -/
def bannerText (package : String) : String :=
  String.join (bannerPicture.map (· ++ "\n")) ++ "//\n\n"
    ++ ("// To install the " ++ package ++ " client library:\n")
    ++ ("//   dart pub add " ++ package ++ "\n\n")

/-- What the preamble is told about an import: a path and the name of the module in the file. -/
def importValue (entry : String × String) : Json :=
  .obj [("path", .str entry.1), ("alias", .str entry.2)]

/-- The line of an import. -/
def importLine (entry : String × String) : String :=
  "import \"" ++ entry.1 ++ "\" as " ++ entry.2 ++ ";\n"

/-- The preamble, line by line: the banner if there is to be one, the imports of libraries, and
those of other files. -/
def preambleText (addBanner package : Json) (imports : List (String × String)) : String :=
  (if addBanner.truthy then bannerText package.display else "")
    ++ "import \"dart:core\" as _core;\n"
    ++ ("import \"package:" ++ package.display ++ "/" ++ package.display ++ ".dart\" as _soia;\n")
    ++ (if imports.isEmpty then "" else "\n" ++ String.join (imports.map importLine)) ++ "\n"

section Preamble

variable {context : Json.Members} {item : Json}

theorem render_banner {value package : Json}
    (hbanner : context.lookup "add_banner" = some value)
    (hpackage : context.lookup "client_package" = some package) :
    renderPiece context item banner =
      .ok (if value.truthy then bannerText package.display else "") := by
  have hinstall : "//\n\n// To install the " = "//\n\n" ++ "// To install the " := by decide
  have hadd : " client library:\n//   dart pub add " =
      " client library:\n" ++ "//   dart pub add " := by
    decide
  rw [banner, renderPiece, hbanner, Option.map_some, Option.getD_some]
  split
  · simp only [renderPieces, renderPiece, valueAt, hpackage, Option.map_some, Option.getD_some,
      bind, Except.bind, bannerText, hinstall, hadd, String.append_assoc,
      String.append_empty]
  · rfl

theorem render_importLines {imports : List (String × String)}
    (himports : context.lookup "imports" = some (.arr (imports.map importValue))) :
    renderPiece context item importLines =
      .ok (if imports.isEmpty then "" else "\n" ++ String.join (imports.map importLine)) := by
  have hline (entry : String × String) :
      renderPieces context (importValue entry) importPieces = .ok (importLine entry) := by
    have hpieces : renderPieces context (importValue entry) importPieces =
        .ok ("import \"" ++ (entry.1 ++ ("\" as " ++ (entry.2 ++ (";\n" ++ ""))))) := rfl
    rw [hpieces, importLine]
    simp only [String.append_assoc, String.append_empty]
  have hlines : renderPiece context item (.forEach "imports" importPieces) =
      .ok (String.join (imports.map importLine)) := by
    rw [renderPiece, himports]
    dsimp only [Json.items]
    rw [mapM_map_of_forall (renderPieces context · importPieces) importValue importLine hline]
    rfl
  rw [importLines, renderPiece, himports, Option.map_some, Option.getD_some]
  cases imports with
  | nil => rfl
  | cons entry imports =>
    have htruthy : (Json.arr ((entry :: imports).map importValue)).truthy = true := rfl
    rw [if_pos htruthy]
    simp only [renderPieces, hlines]
    simp only [renderPiece, bind, Except.bind, String.append_empty]
    rfl

theorem render_preamble (addBanner package : Json) (imports : List (String × String)) :
    preamble.render [("add_banner", addBanner), ("client_package", package),
      ("imports", .arr (imports.map importValue))] =
        .ok (preambleText addBanner package imports) := by
  have hpackage : List.lookup "client_package" [("add_banner", addBanner),
      ("client_package", package), ("imports", .arr (imports.map importValue))] =
      some package := rfl
  simp only [render, preamble, renderPieces]
  rw [render_banner rfl rfl, render_importLines rfl, preambleText]
  simp only [renderPiece, valueAt, hpackage, Option.map_some, Option.getD_some, bind, Except.bind,
    String.append_assoc, String.append_empty]

end Preamble

end DartRecords.Dart.Template
