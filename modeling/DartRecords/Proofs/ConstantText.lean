import DartRecords.Proofs.FileText
import DartRecords.Proofs.Templates

/-!
# Constant values in generated files

The value of a constant is written as a Dart string literal inside a call of `fromJsonCode`.  The
whole file is then laid out and cleaned up, and its line endings are chosen.  This module follows
the call through all of it.

A literal has no newline (`newline_not_mem_stringLiteral`) and stands in quotes, so nothing outside
of it has an effect on it.  Its own brackets have: a file never has two brackets around blanks only,
so such brackets in a literal are collapsed (`collapse_call`), and the value of the constant
changes.  The literals that survive are exactly those without such brackets.
-/

namespace DartRecords.Dart

open Layout (HasHollowBrackets IsNeutral collapse)
open Schema (Constant Module RecordMap)

/-! ## The call around a literal -/

/-- The end of the declaration of a constant, from the literal of its value. -/
def constantCall (literal : List Char) : List Char :=
  ".fromJsonCode(".toList ++ literal ++ ");".toList

/-- The name of the called function and its opening bracket. -/
def callHead : List Char := "fromJsonCode(".toList

theorem constantCall_eq (literal : List Char) :
    constantCall literal = '.' :: (callHead ++ literal ++ [')']) ++ [';'] := by
  have hhead : ".fromJsonCode(".toList = '.' :: callHead := by decide
  have htail : ");".toList = [')', ';'] := by decide
  have hcall : constantCall literal = '.' :: callHead ++ literal ++ [')', ';'] :=
    congrArg₂ (fun head tail => head ++ literal ++ tail) hhead htail
  rw [hcall]
  simp only [List.cons_append, List.append_assoc, List.nil_append]

/-- Brackets are collapsed inside the literal only. -/
theorem collapse_call (cs : List Char) :
    collapse (callHead ++ stringLiteral cs ++ [')']) =
      callHead ++ collapse (stringLiteral cs) ++ [')'] := by
  have hquote : IsNeutral '"' := by decide
  have hhead : collapse callHead = callHead := by decide
  have htail : collapse [')'] = [')'] := by decide
  have hnil : collapse [] = [] := by decide
  -- The quotes part the call and the literal at the same places.
  have hshape : ∀ before after, before ++ stringLiteral cs ++ after =
      before ++ '"' :: (literalBody cs ++ '"' :: after) := by
    intro before after
    simp only [stringLiteral_eq, List.cons_append, List.append_assoc, List.nil_append]
  have hliteral : collapse (stringLiteral cs) = '"' :: (collapse (literalBody cs) ++ ['"']) := by
    have := hshape [] []
    rw [List.nil_append, List.append_nil] at this
    rw [this, Layout.collapse_append_cons hquote, Layout.collapse_append_cons hquote, hnil,
      List.nil_append]
  rw [hshape, Layout.collapse_append_cons hquote, Layout.collapse_append_cons hquote, hhead, htail,
    hliteral]
  simp only [List.cons_append, List.append_assoc, List.nil_append]

theorem newline_not_mem_constantCall {literal : List Char} (h : '\n' ∉ literal) :
    '\n' ∉ constantCall literal := by
  have hhead : '\n' ∉ callHead := by decide
  rw [constantCall_eq]
  simp [hhead, h]

/-! ## Whole files -/

/-- The characters of a declaration up to the end of its call. -/
theorem toList_constantCall (before : String) (literal : List Char) :
    (before ++ ".fromJsonCode(" ++ String.ofList literal ++ ");\n\n").toList =
      before.toList ++ constantCall literal ++ ['\n', '\n'] := by
  have htail : ");\n\n".toList = ");".toList ++ ['\n', '\n'] := by decide
  have hparts : ∀ head tail : String, (before ++ head ++ String.ofList literal ++ tail).toList =
      before.toList ++ head.toList ++ literal ++ tail.toList := by
    intro head tail
    simp
  have hassoc : ∀ head tail blank : List Char, before.toList ++ head ++ literal ++ (tail ++ blank) =
      before.toList ++ (head ++ literal ++ tail) ++ blank := by
    intro head tail blank
    simp only [List.append_assoc]
  exact (hparts _ _).trans ((congrArg (_ ++ ·) htail).trans (hassoc _ _ _))

/-- A declared constant has its call in its fragment. -/
theorem constantCall_infix_constantCode {sp : Speller Gen} {constant : Constant} {fragment : String}
    (h : Returns (constantCode sp constant) fragment) :
    constantCall (stringLiteral constant.value.dense) <:+: fragment.toList := by
  obtain ⟨name, -, h⟩ := h.of_bind
  obtain ⟨type, -, h⟩ := h.of_bind
  obtain ⟨serializer, -, h⟩ := h.of_bind
  have hrender := h.of_lift
  rw [Template.render_constant] at hrender
  cases hrender
  rw [Json.toDense, String.toList_ofList, toList_constantCall]
  exact ⟨_, _, rfl⟩

/-- The call of a declared constant stands in the code of its module. -/
theorem constantCall_infix_moduleCode {sp : Speller Gen} {config : Config}
    {workingDirectory : List String} {path : String} {module : Module} {constant : Constant}
    {fragments : List String} (hemit : config.emitConstants.truthy = true)
    (hmem : constant ∈ module.constants)
    (h : Returns (moduleCode sp config workingDirectory path module) fragments) :
    constantCall (stringLiteral constant.value.dense) <:+: (String.join fragments).toList := by
  obtain ⟨preamble, -, h⟩ := h.of_bind
  obtain ⟨texts, htexts, h⟩ := h.of_bind
  have hfragments := h.of_pure
  obtain ⟨records, -, htexts⟩ := htexts.of_bind
  obtain ⟨methods, -, htexts⟩ := htexts.of_bind
  rw [if_pos hemit] at htexts
  obtain ⟨constants, hconstants, htexts⟩ := htexts.of_bind
  obtain ⟨fragment, hfragment, hreturns⟩ := exists_of_forall₂_left hconstants.of_mapM hmem
  have hmem : fragment ∈ fragments := by
    rw [← hfragments, ← htexts.of_pure]
    exact List.mem_cons_of_mem _ (List.mem_append_right _ hfragment)
  exact (constantCall_infix_constantCode hreturns).trans (infix_join hmem)

/-- A generated file has the call of each of its constants, with hollow brackets collapsed. -/
theorem constantCall_infix_generate [Limits] {config : Config} {workingDirectory : List String}
    {records : RecordMap} {module : Module} {constant : Constant} {file : SourceFile}
    (hemit : config.emitConstants.truthy = true) (hmem : constant ∈ module.constants)
    (h : Returns (SourceFile.generate config workingDirectory records module) file) :
    constantCall (collapse (stringLiteral constant.value.dense)) <:+: file.code.toList := by
  obtain ⟨s, s', h⟩ := h
  obtain ⟨indentUnit, path, fragments, between, after, -, -, -, hfragments, hlaid⟩ :=
    SourceFile.of_generate h
  have hraw := constantCall_infix_moduleCode hemit hmem ⟨between, after, hfragments⟩
  have hline := newline_not_mem_constantCall (newline_not_mem_stringLiteral constant.value.dense)
  rw [constantCall_eq] at hraw hline
  rw [constantCall_eq, ← collapse_call]
  exact hlaid.part (by decide) (by decide) hline hraw

/-- A generated file whose line ending is made of blanks has no hollow brackets. -/
theorem not_hasHollowBrackets_generate [Limits] {config : Config} {workingDirectory : List String}
    {records : RecordMap} {module : Module} {file : SourceFile} (hconfig : HasBlankEnding config)
    (h : Returns (SourceFile.generate config workingDirectory records module) file) :
    ¬HasHollowBrackets file.code.toList := by
  obtain ⟨s, s', h⟩ := h
  obtain ⟨indentUnit, path, fragments, between, after, -, -, -, -, hlaid⟩ :=
    SourceFile.of_generate h
  exact hlaid.not_hasHollowBrackets hconfig

/-- The literal of a constant's value stands in the file that is generated for its module, but
with the blanks between two brackets removed where nothing else stands there.  So it stands there
as it is if it has no such brackets, and only if it has none as long as line endings are blank. -/
theorem constant_literal_survives_iff [Limits] {config : Config} {workingDirectory : List String}
    {records : RecordMap} {module : Module} {constant : Constant} {file : SourceFile}
    {s s' : Session} (hemit : config.emitConstants.truthy = true)
    (hmem : constant ∈ module.constants)
    (hrun : (SourceFile.generate config workingDirectory records module).run.run s =
      (.ok file, s')) :
    constantCall (collapse (stringLiteral constant.value.dense)) <:+: file.code.toList ∧
    (¬HasHollowBrackets (stringLiteral constant.value.dense) →
      constantCall (stringLiteral constant.value.dense) <:+: file.code.toList) ∧
    (HasBlankEnding config →
      (constantCall (stringLiteral constant.value.dense) <:+: file.code.toList ↔
        ¬HasHollowBrackets (stringLiteral constant.value.dense))) := by
  have hreturns : Returns (SourceFile.generate config workingDirectory records module) file :=
    ⟨s, s', hrun⟩
  have hcall := constantCall_infix_generate hemit hmem hreturns
  have hverbatim : ¬HasHollowBrackets (stringLiteral constant.value.dense) →
      constantCall (stringLiteral constant.value.dense) <:+: file.code.toList := by
    intro hhollow
    rwa [(Layout.collapse_eq_self_iff _).2 hhollow] at hcall
  refine ⟨hcall, hverbatim, fun hconfig => ⟨fun hinfix hhollow => ?_, hverbatim⟩⟩
  have hliteral : stringLiteral constant.value.dense <:+: file.code.toList :=
    List.IsInfix.trans ⟨".fromJsonCode(".toList, ");".toList, rfl⟩ hinfix
  exact not_hasHollowBrackets_generate hconfig hreturns (hhollow.of_part hliteral)

/-- A configuration without a banner. -/
def withoutBanner : Config := { addBanner := .bool false }

/-- A constant of a value. -/
def sampleConstant (value : Json) : Constant where
  name := .str "K"
  type := .primitive .string
  value := value

/-- A module that declares one constant. -/
def constantModule (value : Json) : Module where
  path := .str "a.soia"
  constants := [sampleConstant value]

/-- A value with brackets, escapes and an interpolation. -/
def richValue : Json := .obj [("(a )", .arr [.str "$\n"])]

section

attribute [local instance] Limits.usual

theorem richValue_literal_survives : ∃ file s',
    (SourceFile.generate withoutBanner [] [] (constantModule richValue)).run.run {} =
      (.ok file, s') ∧
    constantCall (stringLiteral richValue.dense) <:+: file.code.toList := by
  have hok : ((SourceFile.generate withoutBanner [] []
      (constantModule richValue)).run.run {}).1.toBool = true := by decide +kernel
  obtain ⟨file, s', hrun⟩ := Gen.exists_run_of_toBool hok
  have hmem : sampleConstant richValue ∈ (constantModule richValue).constants :=
    List.mem_cons_self
  have hhollow : ¬HasHollowBrackets (stringLiteral richValue.dense) := by decide +kernel
  have hemit : withoutBanner.emitConstants.truthy = true := rfl
  exact ⟨file, s', hrun, (constant_literal_survives_iff hemit hmem hrun).2.1 hhollow⟩

/-- Two round brackets around a blank are not in the file of their constant. -/
theorem bracket_literal_lost : ∃ file s',
    (SourceFile.generate withoutBanner [] [] (constantModule (.str "( )"))).run.run {} =
      (.ok file, s') ∧
    ¬constantCall (stringLiteral (Json.str "( )").dense) <:+: file.code.toList := by
  have hok : ((SourceFile.generate withoutBanner [] []
      (constantModule (.str "( )"))).run.run {}).1.toBool = true := by decide +kernel
  obtain ⟨file, s', hrun⟩ := Gen.exists_run_of_toBool hok
  have hconfig : HasBlankEnding withoutBanner := ⟨"\n", rfl, List.all_eq_true.1 (by decide)⟩
  have hhollow : HasHollowBrackets (constantCall (stringLiteral (Json.str "( )").dense)) := by
    decide +kernel
  exact ⟨file, s', hrun, fun hinfix =>
    not_hasHollowBrackets_generate hconfig ⟨_, _, hrun⟩ (hhollow.of_part hinfix)⟩

end

end DartRecords.Dart
