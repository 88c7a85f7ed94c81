import DartRecords.Proofs.Lines
import DartRecords.Proofs.Returns

/-!
# The text of a file

The fragments of a file are laid out, cleaned up and given their line endings.  Two facts are about
all of it: a part of a line stands in the file with its hollow brackets collapsed (`LaidOut.part`),
and nothing in the file is a hollow bracket (`LaidOut.not_hasHollowBrackets`).
-/

namespace DartRecords.Dart

open Layout (HasHollowBrackets Hollow IsNeutral collapse findsHollow)
open Text (isBlank replaceChar)

/-! ## Line endings -/

theorem replaceChar_of_not_mem {target : Char} {replacement text : List Char} (h : target ∉ text) :
    replaceChar target replacement text = text := by
  induction text with
  | nil => rfl
  | cons c text ih =>
    simp only [List.mem_cons, not_or] at h
    have hcons : replaceChar target replacement (c :: text) =
        c :: replaceChar target replacement text := by
      simp [replaceChar, Ne.symm h.1]
    rw [hcons, ih h.2]

theorem part_replaceChar {target : Char} {replacement part text : List Char} (h : target ∉ part)
    (hpart : part <:+: text) : part <:+: replaceChar target replacement text := by
  obtain ⟨before, after, rfl⟩ := hpart
  refine ⟨replaceChar target replacement before, replaceChar target replacement after, ?_⟩
  have happend : ∀ first second : List Char, replaceChar target replacement (first ++ second) =
      replaceChar target replacement first ++ replaceChar target replacement second :=
    fun first second => List.flatMap_append
  rw [happend, happend, replaceChar_of_not_mem h]

/-- A line ending that is made of blanks makes no brackets hollow that were not hollow before. -/
theorem findsHollow_of_replaceChar {opening closing : Char} {ending : List Char}
    (hending : ∀ c ∈ ending, isBlank c = true) {scan : Layout.BracketScan} {text : List Char}
    (h : findsHollow opening closing scan (replaceChar '\n' ending text) = true) :
    findsHollow opening closing scan text = true := by
  induction text generalizing scan with
  | nil => exact h
  | cons c text ih =>
    rw [Layout.findsHollow_cons]
    by_cases hc : c = '\n'
    · subst hc
      rw [if_pos Layout.isBlank_newline]
      exact ih (Layout.findsHollow_of_blanks hending h)
    · have hcons : replaceChar '\n' ending (c :: text) = c :: replaceChar '\n' ending text := by
        simp [replaceChar, hc]
      rw [hcons, Layout.findsHollow_cons] at h
      split at h
      · next hblank => rw [if_pos hblank, ih h]
      · next hblank =>
        rw [if_neg hblank]
        simp only [Bool.or_eq_true] at h ⊢
        exact h.imp_right ih

theorem hasHollowBrackets_of_replaceChar {ending : List Char}
    (hending : ∀ c ∈ ending, isBlank c = true) {text : List Char}
    (h : HasHollowBrackets (replaceChar '\n' ending text)) : HasHollowBrackets text := by
  have hpair : ∀ {opening closing : Char}, Layout.IsBracketPair opening closing →
      Hollow opening closing (replaceChar '\n' ending text) → Hollow opening closing text := by
    intro opening closing hpair hhollow
    rw [← Layout.findsHollow_iff hpair.opening_not_blank hpair.closing_not_blank] at hhollow ⊢
    exact findsHollow_of_replaceChar hending hhollow
  exact h.imp (hpair Layout.isBracketPair_curly)
    (Or.imp (hpair Layout.isBracketPair_round) (hpair Layout.isBracketPair_square))

/-- The line ending of a configuration is a text of blanks, as both usual ones are. -/
def HasBlankEnding (config : Config) : Prop :=
  ∃ ending : String, config.lineEnding = .str ending ∧ ∀ c ∈ ending.toList, isBlank c = true

theorem infix_withLineEnding {config : Config} {part code result : List Char}
    (hline : '\n' ∉ part) (hpart : part <:+: code) (h : withLineEnding config code = .ok result) :
    part <:+: result := by
  rw [withLineEnding] at h
  split at h
  · cases h
    split
    · exact hpart
    · exact part_replaceChar hline hpart
  · cases h
  · cases h

theorem not_hasHollowBrackets_withLineEnding {config : Config} {code result : List Char}
    (hconfig : HasBlankEnding config) (hcode : ¬HasHollowBrackets code)
    (h : withLineEnding config code = .ok result) : ¬HasHollowBrackets result := by
  obtain ⟨ending, hending, hblank⟩ := hconfig
  rw [withLineEnding, hending] at h
  cases h
  split
  · exact hcode
  · exact fun hhollow => hcode (hasHollowBrackets_of_replaceChar hblank hhollow)

/-! ## Files -/

theorem infix_join {fragment : String} {fragments : List String} (h : fragment ∈ fragments) :
    fragment.toList <:+: (String.join fragments).toList := by
  obtain ⟨before, after, rfl⟩ := List.append_of_mem h
  exact ⟨(String.join before).toList, (String.join after).toList, by simp⟩

section LaidOut

variable {config : Config} {indentUnit path : String} {fragments : List String} {file : SourceFile}

/-- What stands in a line of the fragments between neutral characters stands in the file, with its
hollow brackets collapsed. -/
theorem LaidOut.part (h : LaidOut config indentUnit path fragments file) {first last : Char}
    {middle : List Char} (hfirst : IsNeutral first) (hlast : IsNeutral last)
    (hline : '\n' ∉ first :: middle ++ [last])
    (hpart : first :: middle ++ [last] <:+: (String.join fragments).toList) :
    first :: collapse middle ++ [last] <:+: file.code.toList := by
  obtain ⟨laid, code, hlaid, hcode, rfl⟩ := h
  rw [String.toList_ofList]
  exact infix_withLineEnding (Layout.newline_not_mem_collapse hline)
    (Layout.part_layout hlaid hfirst hlast hline hpart) hcode

/-- A file whose line ending is made of blanks has no hollow brackets. -/
theorem LaidOut.not_hasHollowBrackets (h : LaidOut config indentUnit path fragments file)
    (hconfig : HasBlankEnding config) : ¬HasHollowBrackets file.code.toList := by
  obtain ⟨laid, code, hlaid, hcode, rfl⟩ := h
  rw [String.toList_ofList]
  refine not_hasHollowBrackets_withLineEnding hconfig ?_ hcode
  rw [Layout.layout] at hlaid
  split at hlaid
  · cases hlaid
  · cases hlaid
    exact Layout.not_hasHollowBrackets_cleanUp _

end LaidOut

end DartRecords.Dart
