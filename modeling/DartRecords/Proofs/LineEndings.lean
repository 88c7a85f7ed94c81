import DartRecords.Proofs.JoinedRows
import DartRecords.Proofs.Returns

/-!
# Blanks at the ends of lines, and line endings

A text that has been laid out is `Normal`: one newline stands at its end, at most one empty line
between two others, and no line ends with a blank.  The squeezing of newlines comes last but one,
and the last clean-up only takes a newline away, so that the second is a fact about all texts
(`not_infix_cleanLines`).  The other two are facts about pages: the last row of a clean page has no
empty lines after it, and each line of it ends as a trimmed one does (`normal_clean`).

A file is laid out before it gets its line endings.  Each newline that is written as a carriage
return and a newline can be found again (`plainEndings_replaceChar`), so the file with plain line
endings can be had from the other one.
-/

namespace DartRecords.Layout

open Text (isBlank)

/-- The blanks of the text are in normal form. -/
structure Normal (text : List Char) : Prop where
  /-- The text ends with a newline, before which there is no other one. -/
  ending : ∃ before, text = before ++ ['\n'] ∧ before.getLast? ≠ some '\n'
  /-- No two empty lines follow each other. -/
  gaps : ¬List.replicate 3 '\n' <:+: text
  /-- No line ends with a blank. -/
  lines : ∀ line ∈ splitLines text, ∀ c ∈ line.getLast?, isBlank c = false

/-! ## Newlines in a row -/

/-- Of the newlines that have been read, at most two are kept, and with them no third one is. -/
theorem not_infix_squeezeNewlines {seen : Nat} (hseen : seen ≤ 2) (text : List Char) :
    ¬List.replicate 3 '\n' <:+: List.replicate seen '\n' ++ squeezeNewlines seen text := by
  fun_induction squeezeNewlines seen text with
  | case1 seen =>
    intro hpart
    have hlength := hpart.length_le
    rw [List.append_nil, List.length_replicate, List.length_replicate] at hlength
    omega
  | case2 seen rest _ ih => exact ih hseen
  | case3 seen rest hfew ih =>
    have hmore := ih (by omega)
    rwa [List.replicate_succ' (n := seen), List.append_assoc] at hmore
  | case4 seen c rest hc ih =>
    -- The character parts the newlines before it from those after it.
    have hrest := ih (by omega)
    rw [List.replicate_zero, List.nil_append] at hrest
    have hne : '\n' ≠ c := Ne.symm hc
    obtain rfl | rfl | rfl : seen = 0 ∨ seen = 1 ∨ seen = 2 := by omega
    · simpa [List.infix_cons_iff, List.replicate_succ, hne] using hrest
    · simpa [List.infix_cons_iff, List.replicate_succ, hne] using hrest
    · simpa [List.infix_cons_iff, List.replicate_succ, hne] using hrest

theorem isPrefix_dropTrailingBlank (text : List Char) : dropTrailingBlank text <+: text := by
  fun_induction dropTrailingBlank text with
  | case1 => exact List.prefix_rfl
  | case2 => exact ⟨['\n'], rfl⟩
  | case3 c rest _ ih => exact List.cons_prefix_cons.2 ⟨rfl, ih⟩

theorem not_infix_cleanLines (text : List Char) : ¬List.replicate 3 '\n' <:+: cleanLines text := by
  intro hpart
  exact not_infix_squeezeNewlines (Nat.zero_le 2) _
    (hpart.trans (isPrefix_dropTrailingBlank _).isInfix)

/-! ## Clean pages -/

section Pages

variable {indentUnit : List Char}

/-- The last row of a clean page has no empty lines after it. -/
theorem exists_rowsText_clean_eq {rows : List Row} (hrows : Readable rows) (hne : rows ≠ []) :
    ∃ before c, rowsText indentUnit (adjust gapCleaned rows) = before ++ [c, '\n'] ∧ c ≠ '\n' := by
  induction rows with
  | nil => exact absurd rfl hne
  | cons r rest ih =>
    cases rest with
    | nil =>
      obtain ⟨c, hlast, hc⟩ := (hrows r List.mem_cons_self).last
      obtain ⟨init, hline⟩ := List.getLast?_eq_some_iff.1 hlast
      refine ⟨repeated indentUnit r.depth ++ init, c, ?_, ne_newline hc⟩
      simp [adjust, rowsText, Row.indented, gapCleaned_none, hline]
    | cons next rest =>
      obtain ⟨before, c, htext, hc⟩ := ih hrows.tail (List.cons_ne_nil next rest)
      rw [adjust_cons, rowsText, htext, ← List.append_assoc, ← List.append_assoc]
      exact ⟨_, c, rfl, hc⟩

/-- The text of a clean page ends with one newline, unless it is empty. -/
theorem exists_text_clean_eq {page : Page} (hrows : Readable page.rows)
    (hne : page.lead ≠ 0 ∨ page.rows ≠ []) :
    ∃ before, page.clean.text indentUnit = before ++ ['\n'] ∧ before.getLast? ≠ some '\n' := by
  obtain ⟨lead, rows⟩ := page
  by_cases hnil : rows = []
  · -- Of empty lines alone one is left.
    subst hnil
    have hlead : lead ≠ 0 := hne.resolve_right fun h => h rfl
    have hclean : Page.clean ⟨lead, []⟩ = ⟨1, []⟩ := by
      rw [Page.clean, if_pos rfl, Nat.min_eq_right (Nat.one_le_iff_ne_zero.2 hlead)]
      rfl
    rw [hclean]
    exact ⟨[], rfl, by simp⟩
  · obtain ⟨before, c, htext, hc⟩ := @exists_rowsText_clean_eq indentUnit rows hrows hnil
    refine ⟨List.replicate (min lead 2) '\n' ++ before ++ [c], ?_, ?_⟩
    · rw [Page.clean, if_neg hnil, Page.text, htext]
      simp only [List.append_assoc, List.cons_append, List.nil_append]
    · rw [List.getLast?_concat]
      exact fun h => hc (Option.some.inj h)

/-- A text has at least one line, which is a blank one or a row. -/
theorem page_ne_empty {n : Nat} {stack final : Stack} {lines : List (List Char)}
    {placed : List Placed} (hne : lines ≠ []) (h : placeLines n stack lines = .ok (placed, final)) :
    (Page.of placed).lead ≠ 0 ∨ (Page.of placed).rows ≠ [] := by
  obtain ⟨first, others, rfl⟩ := List.exists_cons_of_ne_nil hne
  obtain ⟨one, after, more, -, -, rfl⟩ := placeLines_cons_eq_ok.1 h
  cases one with
  | blank => exact .inl (Nat.succ_ne_zero _)
  | line depth text => exact .inr (List.cons_ne_nil _ _)

/-- Joined rows start as the rows do, so there are none only if there were none. -/
theorem joinAll_ne_nil {rows : List Row} (hrows : Readable rows) (hne : rows ≠ []) :
    joinAll rows ≠ [] := by
  obtain ⟨r, rest, rfl⟩ := List.exists_cons_of_ne_nil hne
  obtain ⟨c, hfirst, -⟩ := (hrows r List.mem_cons_self).first
  have hstart : start? (joinAll (r :: rest)) = some c := (start?_joinAll hrows).trans hfirst
  intro hnil
  rw [hnil] at hstart
  cases hstart

variable (hunit : IsIndentation indentUnit)
include hunit

/-- No line of a page ends with a blank. -/
theorem not_blank_of_mem_splitLines {page : Page} (hrows : Readable page.rows) {line : List Char}
    (hline : line ∈ splitLines (page.text indentUnit)) :
    ∀ c ∈ line.getLast?, isBlank c = false := by
  intro c hc
  rw [splitLines_text hunit hrows, Page.lines] at hline
  obtain rfl | ⟨r, hr, rfl⟩ : line = [] ∨ ∃ r ∈ page.rows, r.indented indentUnit = line := by
    simp only [List.mem_append, List.mem_flatMap, Row.lines, List.mem_cons,
      List.mem_replicate] at hline
    grind
  · cases hc
  · obtain ⟨last, hlast, hblank⟩ := (hrows r hr).last
    rw [Row.indented, List.getLast?_append, hlast] at hc
    cases hc
    exact hblank

/-- A page that is not empty is in normal form once it is clean. -/
theorem normal_clean {page : Page} (hrows : Readable page.rows) (hstart : page.StartsOpen)
    (hne : page.lead ≠ 0 ∨ page.rows ≠ []) : Normal (page.clean.text indentUnit) where
  ending := exists_text_clean_eq hrows hne
  gaps := by
    rw [← cleanLines_text hunit hrows hstart]
    exact not_infix_cleanLines _
  lines line hline := not_blank_of_mem_splitLines hunit (hrows.adjust gapCleaned) hline

/-- Whatever is laid out, the text is in normal form. -/
theorem normal_of_layout {raw : List Char} {laid : Laid} (h : layout indentUnit raw = .ok laid) :
    Normal laid.text := by
  rw [layout_eq hunit] at h
  cases hplaced : placeLines 1 [] (splitLines raw) with
  | error e =>
    rw [hplaced] at h
    cases h
  | ok placed =>
    rw [hplaced] at h
    cases h
    have hrows := readable_of_splitLines hplaced
    have hne := page_ne_empty (splitLines_ne_nil raw) hplaced
    refine normal_clean hunit hrows.joined ((startsOpen_of_placeLines hplaced).joined hrows) ?_
    exact hne.imp_right (joinAll_ne_nil hrows)

end Pages

end DartRecords.Layout

namespace DartRecords.Dart

open Layout (IsIndentation Laid Normal layout)
open Schema (Module RecordMap)
open Text (replaceChar)

/-! ## Line endings -/

/-- Replaces every pair of a carriage return and a newline by the newline. -/
def plainEndings : List Char → List Char
  | [] => []
  | '\r' :: '\n' :: rest => '\n' :: plainEndings rest
  | c :: rest => c :: plainEndings rest

theorem plainEndings_pair (text : List Char) :
    plainEndings ('\r' :: '\n' :: text) = '\n' :: plainEndings text := by
  rw [plainEndings]

theorem plainEndings_cons {text : List Char} (h : text.head? ≠ some '\n') (c : Char) :
    plainEndings (c :: text) = c :: plainEndings text := by
  rw [plainEndings]
  rintro rest - rfl
  exact h rfl

/-- Each newline is written with a carriage return before it, so what is written never starts with a
newline. -/
theorem head?_replaceChar_ne (text : List Char) :
    (replaceChar '\n' ['\r', '\n'] text).head? ≠ some '\n' := by
  cases text with
  | nil => simp [replaceChar]
  | cons c text => by_cases hc : c = '\n' <;> simp [replaceChar, hc]

/-- The newlines of a text are found again, whatever carriage returns it has itself. -/
theorem plainEndings_replaceChar (text : List Char) :
    plainEndings (replaceChar '\n' ['\r', '\n'] text) = text := by
  induction text with
  | nil => rfl
  | cons c text ih =>
    by_cases hc : c = '\n'
    · subst hc
      exact (plainEndings_pair _).trans (congrArg ('\n' :: ·) ih)
    · have hcons : replaceChar '\n' ['\r', '\n'] (c :: text) =
          c :: replaceChar '\n' ['\r', '\n'] text := by
        simp [replaceChar, hc]
      rw [hcons, plainEndings_cons (head?_replaceChar_ne text), ih]

/-- Of several carriage returns only the one beside the newline goes, and a newline by itself
stays. -/
example : plainEndings "a\r\r\n\nb\r".toList = "a\r\n\nb\r".toList := by decide

/-- The configuration with another line ending. -/
def endingWith (ending : String) (config : Config) : Config :=
  { config with lineEnding := .str ending }

theorem withLineEnding_newline (config : Config) (code : List Char) :
    withLineEnding (endingWith "\n" config) code = .ok code := rfl

theorem withLineEnding_pair (config : Config) (code : List Char) :
    withLineEnding (endingWith "\r\n" config) code = .ok (replaceChar '\n' ['\r', '\n'] code) := rfl

/-! ## Files -/

/-- The file with plain line endings. -/
def SourceFile.plain (file : SourceFile) : SourceFile :=
  { file with code := String.ofList (plainEndings file.code.toList) }

/-- The indentation of one level that a configuration asks for is made of spaces or a tab. -/
theorem isIndentation_indentUnit [Limits] {config : Config} {unit : String}
    (h : config.indentUnit = .ok unit) :
    IsIndentation unit.toList := by
  rw [Config.indentUnit] at h
  split at h
  · cases h
    decide
  · split at h
    · split at h
      · cases h
      · split at h
        · cases h
        · cases h
          rw [String.toList_ofList]
          exact fun c hc => .inl (List.eq_of_mem_replicate hc)
    · next b _ =>
      cases h
      cases b <;> decide
    · cases h

/-- The code of a file, once it has been laid out, gets its line endings last of all. -/
theorem lift_withLineEnding_newline_eq (config : Config) (path : String) (text : List Char) :
    (lift (ofValue (withLineEnding (endingWith "\n" config) text)) >>= fun code =>
        pure ⟨path, String.ofList code⟩ : Gen SourceFile) =
      SourceFile.plain <$> (lift (ofValue (withLineEnding (endingWith "\r\n" config) text)) >>=
        fun code =>
        pure ⟨path, String.ofList code⟩) := by
  have hplain : SourceFile.plain ⟨path, String.ofList (replaceChar '\n' ['\r', '\n'] text)⟩ =
      ⟨path, String.ofList text⟩ := by
    rw [SourceFile.plain, String.toList_ofList, plainEndings_replaceChar]
  rw [withLineEnding_newline, withLineEnding_pair]
  exact congrArg (pure : SourceFile → Gen SourceFile) hplain.symm

/-- Generating a file with plain line endings is generating it with pairs and replacing these, from
any session and whether it succeeds or fails. -/
theorem generate_newline_eq [Limits] (config : Config) (workingDirectory : List String)
    (records : RecordMap) (module : Module) :
    SourceFile.generate (endingWith "\n" config) workingDirectory records module =
      SourceFile.plain <$>
        SourceFile.generate (endingWith "\r\n" config) workingDirectory records module := by
  rw [SourceFile.generate, SourceFile.generate]
  simp only [map_bind]
  refine bind_congr fun _ => bind_congr fun unit => bind_congr fun _ => bind_congr fun path =>
    bind_congr fun fragments => bind_congr fun laid => ?_
  cases laid.note? with
  | none => exact lift_withLineEnding_newline_eq config (outputPath path) laid.text
  | some note =>
    rw [map_bind]
    exact bind_congr fun _ => lift_withLineEnding_newline_eq config (outputPath path) laid.text

/-- A file that is generated with plain line endings is in normal form. -/
theorem normal_of_generate [Limits] {config : Config} {workingDirectory : List String}
    {records : RecordMap} {module : Module} {file : SourceFile}
    (h : Returns (SourceFile.generate (endingWith "\n" config) workingDirectory records module)
      file) :
    Normal file.code.toList := by
  obtain ⟨s, s', hrun⟩ := h
  obtain ⟨unit, path, fragments, -, -, hunit, -, -, -, laid, code, hlaid, hcode, rfl⟩ :=
    SourceFile.of_generate hrun
  cases hcode
  rw [String.toList_ofList]
  exact Layout.normal_of_layout (isIndentation_indentUnit hunit) hlaid

/-- The text that layout returns is in normal form, whatever it is made of.  So is every file that
is generated with plain line endings, and the generation of it from any session is that of the file
with a carriage return before each newline, once the pairs are replaced. -/
theorem laid_text_normal_and_endings_reversible [Limits] :
    (∀ {indentUnit raw : List Char} {laid : Laid}, IsIndentation indentUnit →
      layout indentUnit raw = .ok laid → Normal laid.text) ∧
    ∀ (config : Config) (workingDirectory : List String) (records : RecordMap) (module : Module),
      SourceFile.generate (endingWith "\n" config) workingDirectory records module =
        SourceFile.plain <$>
          SourceFile.generate (endingWith "\r\n" config) workingDirectory records module ∧
      ∀ file, Returns (SourceFile.generate (endingWith "\n" config) workingDirectory records module)
        file →
        Normal file.code.toList :=
  ⟨fun hunit h => Layout.normal_of_layout hunit h, fun config workingDirectory records module =>
    ⟨generate_newline_eq config workingDirectory records module, fun _ => normal_of_generate⟩⟩

/-- A call and a chain, with carriage returns and other blanks at the ends of lines and too many
empty lines. -/
def strayEndings : List Char :=
  "\r\n\n\n\nf(\r\n\r\n)\t\r\n\n\n\r\n\r\n.g(\r\n1\r,\r\r\n).h() \r\n\r\n".toList

/-- A module that declares nothing. -/
def bareModule : Module where
  path := .str "bare.soia"

section

attribute [local instance] Limits.usual

/-- A carriage return inside a line stays, and those at the ends of lines are gone. -/
theorem strayEndings_normal :
    layout ['\t'] strayEndings = .ok ⟨"\n\nf()\n\n\t.g(\n\t\t1\r,\n\t).h()\n".toList, 1⟩ ∧
    Normal "\n\nf()\n\n\t.g(\n\t\t1\r,\n\t).h()\n".toList ∧
    Returns (SourceFile.generate (endingWith "\n" { addBanner := .bool false }) [] [] bareModule)
      (SourceFile.plain ⟨"bare.dart",
        "import \"dart:core\" as _core;\r\nimport \"package:soia/soia.dart\" as _soia;\r\n"⟩) ∧
    Normal (plainEndings
      ("import \"dart:core\" as _core;\r\n" ++
        "import \"package:soia/soia.dart\" as _soia;\r\n").toList) := by
  have hlaid : layout ['\t'] strayEndings =
      .ok ⟨"\n\nf()\n\n\t.g(\n\t\t1\r,\n\t).h()\n".toList, 1⟩ := by
    decide +kernel
  obtain ⟨hlayout, hmodules⟩ := laid_text_normal_and_endings_reversible
  obtain ⟨hplain, hnormal⟩ := hmodules { addBanner := .bool false } [] [] bareModule
  -- The file is generated with pairs, and the theorem tells what it is without them.
  have hreturns :
      Returns (SourceFile.generate (endingWith "\n" { addBanner := .bool false }) [] [] bareModule)
      (SourceFile.plain ⟨"bare.dart",
        "import \"dart:core\" as _core;\r\nimport \"package:soia/soia.dart\" as _soia;\r\n"⟩) := by
    rw [hplain]
    exact ⟨{}, _, rfl⟩
  have hfile := hnormal _ hreturns
  rw [SourceFile.plain, String.toList_ofList] at hfile
  exact ⟨hlaid, hlayout (by decide) hlaid, hreturns, hfile⟩

end

end DartRecords.Dart
