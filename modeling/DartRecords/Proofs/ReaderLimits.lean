import DartRecords.FileSystem.Document
import DartRecords.Proofs.ReaderFuel

/-!
# Limits of the reader

A text may be refused although nothing in it is wrong so far: because a list or an object starts
inside too many others, or because a whole number has too many digits.  `Exceeds` says of a text
where that happens, by what stands before it: values and names that are read, with commas and colons
between them.  Reading a text ends at a limit exactly if the text exceeds one
(`refused_iff_overwhelms`); a fault of syntax that comes first hides the limit.

The proof follows the readers of values, items and members, which call one another, by induction on
their fuel (`GivesUpWithin`).
-/

namespace DartRecords.Json.Parser

variable {α β : Type}

/-- Reading ends at a limit. -/
def GivesUp (result : Except ParseError α) : Prop :=
  ∃ e, result = .error e ∧ e.refusal?.isSome = true

theorem not_givesUp_ok (a : α) : ¬GivesUp (.ok a) := by
  rintro ⟨e, he, -⟩
  cases he

theorem givesUp_error_iff {e : ParseError} :
    GivesUp (.error e : Except ParseError α) ↔ e.refusal?.isSome = true := by
  constructor
  · rintro ⟨e', he, hrefusal⟩
    cases he
    exact hrefusal
  · exact fun hrefusal => ⟨e, rfl, hrefusal⟩

/-- A fault of syntax is no limit. -/
theorem not_givesUp_error {e : ParseError} (h : e.refusal? = none) :
    ¬GivesUp (.error e : Except ParseError α) := by
  rw [givesUp_error_iff, h]
  exact Bool.false_ne_true

/-- A fault is passed on as it is. -/
theorem givesUp_passed_on {result : Except ParseError β} {e : ParseError} (h : result = .error e) :
    GivesUp (.error e : Except ParseError α) ↔ GivesUp result := by
  rw [h, givesUp_error_iff, givesUp_error_iff]

/-! ## Strings -/

theorem not_givesUp_unicodeUnit (pos : ℕ) (cs : List Char) : ¬GivesUp (unicodeUnit pos cs) := by
  unfold unicodeUnit
  split
  · exact not_givesUp_error rfl
  · split
    · exact not_givesUp_ok _
    · exact not_givesUp_error rfl

theorem not_givesUp_unicodeEscape [LoneHalves] (pos : ℕ) (cs : List Char) :
    ¬GivesUp (unicodeEscape pos cs) := by
  unfold unicodeEscape
  split
  · next hunit => exact mt (givesUp_passed_on hunit).1 (not_givesUp_unicodeUnit pos cs)
  · split
    · split
      · split
        · exact not_givesUp_error rfl
        · split
          · exact not_givesUp_ok _
          · exact not_givesUp_ok _
      · exact not_givesUp_ok _
    · exact not_givesUp_ok _

theorem not_givesUp_string [LoneHalves] (start fuel : ℕ) (seen : List Char) (cursor : Cursor) :
    ¬GivesUp (string start fuel seen cursor) := by
  induction fuel generalizing seen cursor with
  | zero => exact not_givesUp_error rfl
  | succ fuel ih =>
    obtain ⟨pos, cs⟩ := cursor
    rw [string.eq_def]
    dsimp only
    split
    · exact not_givesUp_error rfl
    · exact not_givesUp_ok _
    · exact not_givesUp_error rfl
    · split
      · next hescape => exact mt (givesUp_passed_on hescape).1 (not_givesUp_unicodeEscape _ _)
      · exact ih _ _
    · split
      · exact ih _ _
      · exact not_givesUp_error rfl
    · split
      · exact not_givesUp_error rfl
      · exact ih _ _

/-! ## Numbers -/

/-- A text consists of the digits of a whole number, more than the reader converts, and of what
follows them. -/
structure IsLongWhole (whole rest : List Char) : Prop where
  digits : ∀ c ∈ whole, isDigit c = true
  lead : whole.head? ≠ some '0'
  long : maxDigits < whole.length
  stops : Stops rest
  noFraction : fractionDigits rest = []
  noPower : exponentPart rest = none

/-- The text starts with a whole number of too many digits. -/
def LongWhole (cs : List Char) : Prop := ∃ whole rest, cs = whole ++ rest ∧ IsLongWhole whole rest

theorem IsLongWhole.exists_cons {whole rest : List Char} (h : IsLongWhole whole rest) :
    ∃ c more, whole = c :: more ∧ isDigit c = true ∧ c ≠ '0' := by
  obtain _ | ⟨c, more⟩ := whole
  · exact absurd h.long (Nat.not_lt_zero _)
  · exact ⟨c, more, rfl, h.digits c List.mem_cons_self, fun hc => h.lead (congrArg some hc)⟩

theorem LongWhole.exists_cons {cs : List Char} (h : LongWhole cs) :
    ∃ c rest, cs = c :: rest ∧ isDigit c = true := by
  obtain ⟨whole, rest, rfl, hlong⟩ := h
  obtain ⟨c, more, rfl, hc, -⟩ := hlong.exists_cons
  exact ⟨c, more ++ rest, rfl, hc⟩

theorem stops_dropWhile (cs : List Char) : Stops (cs.dropWhile isDigit) := by
  intro c hc
  have := List.head?_dropWhile_not isDigit cs
  rw [Option.mem_def] at hc
  simpa [hc] using this

theorem wholeDigits_of_one_lt {cs : List Char} (h : 1 < (wholeDigits cs).length) :
    wholeDigits cs = cs.takeWhile isDigit ∧ cs.head? ≠ some '0' := by
  obtain _ | ⟨c, cs⟩ := cs
  · exact absurd h (Nat.not_lt_zero _)
  · rw [wholeDigits] at h ⊢
    split at h
    · exact absurd h (Nat.lt_irrefl 1)
    · next hc => exact ⟨if_neg hc, fun hhead => hc (Option.some.inj hhead)⟩

theorem longWhole_of_givesUp {start : ℕ} {negative : Bool} {cursor : Cursor}
    (h : GivesUp (number start negative cursor)) : LongWhole cursor.rest := by
  unfold number at h
  extract_lets whole afterWhole fraction pointed afterFraction power powered after value
    exponent at h
  split at h
  · exact absurd h (not_givesUp_error rfl)
  split at h
  · next hparts =>
    split at h
    · next hlong =>
      obtain ⟨hfraction, hpower⟩ := Bool.and_eq_true_iff.1 hparts
      obtain ⟨hwhole, hlead⟩ := wholeDigits_of_one_lt (Nat.lt_trans (by decide) hlong)
      have hafterWhole : afterWhole = cursor.rest.dropWhile isDigit := by
        have hsplit :=
          congrArg (List.drop whole.length) (@List.takeWhile_append_dropWhile _ isDigit cursor.rest)
        rw [← hwhole, List.drop_left] at hsplit
        exact hsplit.symm
      have hafterFraction : afterFraction = afterWhole := by
        simp only [afterFraction, pointed, hfraction, if_true, List.drop_zero]
      refine ⟨whole, afterWhole, ?_, fun c => isDigit_of_mem_wholeDigits, ?_, hlong, ?_, ?_, ?_⟩
      · calc cursor.rest = cursor.rest.takeWhile isDigit ++ cursor.rest.dropWhile isDigit :=
              List.takeWhile_append_dropWhile.symm
          _ = whole ++ afterWhole := by rw [hafterWhole, ← hwhole]
      · intro hzero
        rw [show whole = _ from hwhole, List.head?_takeWhile] at hzero
        exact hlead (Option.filter_eq_some_iff.1 hzero).1
      · rw [hafterWhole]
        exact stops_dropWhile _
      · exact List.isEmpty_iff.1 hfraction
      · rw [← hafterFraction]
        exact Option.isNone_iff_eq_none.1 hpower
    · exact absurd h (not_givesUp_ok _)
  · exact absurd h (not_givesUp_ok _)

theorem givesUp_of_longWhole {cursor : Cursor} (h : LongWhole cursor.rest) (start : ℕ)
    (negative : Bool) :
    GivesUp (number start negative cursor) := by
  obtain ⟨whole, rest, hrest, hlong⟩ := h
  obtain ⟨c, more, hcons, -, hzero⟩ := hlong.exists_cons
  have hwhole : wholeDigits cursor.rest = whole := by
    rw [hrest]
    exact wholeDigits_text hlong.digits (.inr ⟨c, more, hcons, hzero⟩) hlong.stops
  have hne : whole.isEmpty = false := by rw [hcons]; rfl
  have hafter : cursor.rest.drop whole.length = rest := by rw [hrest, List.drop_left]
  have hnumber : number start negative cursor = .error (.tooManyDigits whole.length) := by
    simp only [number, hwhole, hne, hafter, hlong.noFraction, hlong.noPower, List.isEmpty_nil,
      List.drop_zero, if_true, Bool.false_eq_true, if_false, Option.isNone_none, Bool.and_self,
      if_pos hlong.long]
  exact ⟨_, hnumber, rfl⟩

/-- The text starts with a whole number of too many digits, perhaps with a sign. -/
def LongNumber (cs : List Char) : Prop := LongWhole cs ∨ ∃ rest, cs = '-' :: rest ∧ LongWhole rest

theorem not_longNumber_cons {c : Char} (hdigit : isDigit c = false) (hsign : c ≠ '-')
    (cs : List Char) :
    ¬LongNumber (c :: cs) := by
  rintro (h | ⟨rest, heq, -⟩)
  · obtain ⟨d, rest, heq, hd⟩ := h.exists_cons
    rw [← (List.cons.inj heq).1, hdigit] at hd
    cases hd
  · exact hsign (List.cons.inj heq).1

theorem not_longNumber_nil : ¬LongNumber [] := by
  rintro (h | ⟨rest, heq, -⟩)
  · obtain ⟨d, rest, heq, -⟩ := h.exists_cons
    cases heq
  · cases heq

theorem givesUp_scalar_iff {cursor : Cursor} :
    GivesUp (scalar cursor) ↔ LongNumber cursor.rest := by
  obtain ⟨pos, cs⟩ := cursor
  constructor
  · intro h
    unfold scalar at h
    extract_lets names at h
    split at h
    · exact absurd h (not_givesUp_ok _)
    · split at h
      · next rest hrest => exact .inr ⟨rest, hrest, longWhole_of_givesUp h⟩
      · exact .inl (longWhole_of_givesUp h)
  · rintro (h | ⟨rest, rfl, h⟩)
    · obtain ⟨c, rest, rfl, hc⟩ := h.exists_cons
      rw [scalar_digit hc]
      exact givesUp_of_longWhole h _ _
    · obtain ⟨c, rest, rfl, hc⟩ := h.exists_cons
      rw [scalar_minus hc]
      exact givesUp_of_longWhole h _ _

/-! ## Values -/

variable [LoneHalves]

/-- From where the items of a list start, or go on, reading gets to the start of an item. -/
inductive ItemAt (nesting : ℕ) : Cursor → Cursor → Prop where
  | here {cursor : Cursor} : ItemAt nesting cursor cursor
  | later {cursor next item : Cursor} {v : Json} {rest : List Char} : readValue nesting cursor =
    .ok (v, next) →
      (skipSpace next.pos next.rest).rest = ',' :: rest →
      ItemAt nesting (skipSpace ((skipSpace next.pos next.rest).pos + 1) rest) item →
      ItemAt nesting cursor item

/-- From where a member of an object starts, reading gets to the start of its value. -/
inductive NamedValueAt : Cursor → Cursor → Prop where
  | mk {cursor next : Cursor} {name : String} {rest : List Char} : readName cursor =
    .ok (name, next) →
      (skipSpace next.pos next.rest).rest = ':' :: rest →
      NamedValueAt cursor (skipSpace ((skipSpace next.pos next.rest).pos + 1) rest)

/-- From where the members of an object start, or go on, reading gets to the start of the value of a
member. -/
inductive MemberAt (nesting : ℕ) : Cursor → Cursor → Prop where
  | here {cursor item : Cursor} : NamedValueAt cursor item → MemberAt nesting cursor item
  | later {cursor first next item : Cursor} {v : Json} {rest : List Char} : NamedValueAt
    cursor first →
      readValue nesting first = .ok (v, next) → (skipSpace next.pos next.rest).rest = ',' :: rest →
      MemberAt nesting (skipSpace ((skipSpace next.pos next.rest).pos + 1) rest) item →
      MemberAt nesting cursor item

/-- The value at a cursor exceeds a limit of the reader, inside of lists and objects in which so
many more may be nested. -/
inductive Exceeds : ℕ → Cursor → Prop where
  | number {nesting : ℕ} {cursor : Cursor} : LongNumber cursor.rest → Exceeds nesting cursor
  | list {pos : ℕ} {rest : List Char} : Exceeds 0 ⟨pos, '[' :: rest⟩
  | object {pos : ℕ} {rest : List Char} : Exceeds 0 ⟨pos, '\x7b' :: rest⟩
  | item {nesting pos : ℕ} {rest : List Char} {item : Cursor} : ItemAt nesting
    (skipSpace (pos + 1) rest) item →
      Exceeds nesting item → Exceeds (nesting + 1) ⟨pos, '[' :: rest⟩
  | member {nesting pos : ℕ} {rest : List Char} {item : Cursor} : MemberAt nesting
    (skipSpace (pos + 1) rest) item →
      Exceeds nesting item → Exceeds (nesting + 1) ⟨pos, '\x7b' :: rest⟩

/-- A value that is neither a list nor an object exceeds a limit only as a number. -/
theorem exceeds_iff_longNumber {nesting : ℕ} {cursor : Cursor}
    (hlist : ∀ rest, cursor.rest ≠ '[' :: rest) (hobject : ∀ rest, cursor.rest ≠ '\x7b' :: rest) :
    Exceeds nesting cursor ↔ LongNumber cursor.rest := by
  constructor
  · intro h
    cases h with
    | number hlong => exact hlong
    | list => exact absurd rfl (hlist _)
    | object => exact absurd rfl (hobject _)
    | item => exact absurd rfl (hlist _)
    | member => exact absurd rfl (hobject _)
  · exact .number

/-- An item of a list exceeds a limit. -/
def SomeItemExceeds (nesting : ℕ) (cursor : Cursor) : Prop :=
  ∃ item, ItemAt nesting cursor item ∧ Exceeds nesting item

/-- The value of a member of an object exceeds a limit. -/
def SomeMemberExceeds (nesting : ℕ) (cursor : Cursor) : Prop :=
  ∃ item, MemberAt nesting cursor item ∧ Exceeds nesting item

theorem exceeds_list_iff {nesting pos : ℕ} {rest : List Char} :
    Exceeds (nesting + 1) ⟨pos, '[' :: rest⟩ ↔
      SomeItemExceeds nesting (skipSpace (pos + 1) rest) := by
  constructor
  · intro h
    cases h with
    | number hlong => exact absurd hlong (not_longNumber_cons rfl (by decide) _)
    | item hitem hexceeds => exact ⟨_, hitem, hexceeds⟩
  · rintro ⟨item, hitem, hexceeds⟩
    exact .item hitem hexceeds

theorem exceeds_object_iff {nesting pos : ℕ} {rest : List Char} :
    Exceeds (nesting + 1) ⟨pos, '\x7b' :: rest⟩ ↔
      SomeMemberExceeds nesting (skipSpace (pos + 1) rest) := by
  constructor
  · intro h
    cases h with
    | number hlong => exact absurd hlong (not_longNumber_cons rfl (by decide) _)
    | member hitem hexceeds => exact ⟨_, hitem, hexceeds⟩
  · rintro ⟨item, hitem, hexceeds⟩
    exact .member hitem hexceeds

/-- The first item exceeds a limit, or it is read and a later one does. -/
theorem someItemExceeds_iff {nesting : ℕ} {cursor : Cursor} :
    SomeItemExceeds nesting cursor ↔ Exceeds nesting cursor ∨ ∃ v next rest,
      readValue nesting cursor = .ok (v, next) ∧ (skipSpace next.pos next.rest).rest = ',' :: rest ∧
      SomeItemExceeds nesting (skipSpace ((skipSpace next.pos next.rest).pos + 1) rest) := by
  constructor
  · rintro ⟨item, hitem, hexceeds⟩
    cases hitem with
    | here => exact .inl hexceeds
    | later hvalue hcomma hlater => exact .inr ⟨_, _, _, hvalue, hcomma, item, hlater, hexceeds⟩
  · rintro (hexceeds | ⟨v, next, rest, hvalue, hcomma, item, hlater, hexceeds⟩)
    · exact ⟨cursor, .here, hexceeds⟩
    · exact ⟨item, .later hvalue hcomma hlater, hexceeds⟩

/-- The value of the first member exceeds a limit, or it is read and that of a later one does. -/
theorem someMemberExceeds_iff {nesting : ℕ} {cursor : Cursor} :
    SomeMemberExceeds nesting cursor ↔ ∃ first, NamedValueAt cursor first ∧
    (Exceeds nesting first ∨ ∃ v next rest,
      readValue nesting first = .ok (v, next) ∧ (skipSpace next.pos next.rest).rest = ',' :: rest ∧
      SomeMemberExceeds nesting (skipSpace ((skipSpace next.pos next.rest).pos + 1) rest)) := by
  constructor
  · rintro ⟨item, hitem, hexceeds⟩
    cases hitem with
    | here hnamed => exact ⟨item, hnamed, .inl hexceeds⟩
    | later hnamed hvalue hcomma hlater =>
      exact ⟨_, hnamed, .inr ⟨_, _, _, hvalue, hcomma, item, hlater, hexceeds⟩⟩
  · rintro ⟨first, hnamed, hexceeds | ⟨v, next, rest, hvalue, hcomma, item, hlater, hexceeds⟩⟩
    · exact ⟨first, .here hnamed, hexceeds⟩
    · exact ⟨item, .later hnamed hvalue hcomma hlater, hexceeds⟩

/-! ## Readers that give up -/

/-- With some fuel, if that is enough, the readers end at a limit exactly where one is exceeded. -/
structure GivesUpWithin (fuel : ℕ) : Prop where
  value : ∀ {nesting : ℕ} {cursor : Cursor}, 2 * cursor.rest.length + 2 ≤ fuel →
    (GivesUp (value fuel nesting cursor) ↔ Exceeds nesting cursor)
  elements : ∀ {nesting : ℕ} {seen : List Json} {cursor : Cursor},
    2 * cursor.rest.length + 3 ≤ fuel →
    (GivesUp (elements fuel nesting seen cursor) ↔ SomeItemExceeds nesting cursor)
  members : ∀ {nesting : ℕ} {seen : Members} {cursor : Cursor}, 2 * cursor.rest.length + 3 ≤ fuel →
    (GivesUp (members fuel nesting seen cursor) ↔ SomeMemberExceeds nesting cursor)

/-- No value starts with a closing bracket. -/
theorem readValue_close {nesting : ℕ} {cursor : Cursor} {rest : List Char}
    (hrest : cursor.rest = ']' :: rest) :
    readValue nesting cursor = .error (.expectingValue cursor.pos) := by
  obtain ⟨pos, cs⟩ := cursor
  subst hrest
  rfl

theorem not_someItemExceeds_close {nesting : ℕ} {cursor : Cursor} {rest : List Char}
    (hrest : cursor.rest = ']' :: rest) : ¬SomeItemExceeds nesting cursor := by
  rw [someItemExceeds_iff, readValue_close hrest,
    exceeds_iff_longNumber (by simp [hrest]) (by simp [hrest]), hrest]
  rintro (hlong | ⟨v, next, rest', hvalue, -⟩)
  · exact not_longNumber_cons rfl (by decide) _ hlong
  · cases hvalue

theorem readName_of_ne {cursor : Cursor} (h : ∀ rest, cursor.rest ≠ '"' :: rest) :
    readName cursor = .error (.expectingName cursor.pos) := by
  rw [readName]
  split
  · next hrest => exact absurd hrest (h _)
  · rfl

theorem not_givesUp_readName (cursor : Cursor) : ¬GivesUp (readName cursor) := by
  rw [readName]
  split
  · exact not_givesUp_string _ _ _ _
  · exact not_givesUp_error rfl

theorem length_readName_lt {cursor next : Cursor} {name : String}
    (h : readName cursor = .ok (name, next)) :
    next.rest.length < cursor.rest.length := by
  rw [readName] at h
  split at h
  · next hrest =>
    rw [hrest, List.length_cons]
    exact Nat.lt_succ_of_le (length_string_le h)
  · cases h

theorem not_namedValueAt_of_error {cursor item : Cursor} {e : ParseError}
    (h : readName cursor = .error e) :
    ¬NamedValueAt cursor item := by
  rintro ⟨hname, -⟩
  cases h.symm.trans hname

theorem namedValueAt_iff {cursor next item : Cursor} {name : String}
    (h : readName cursor = .ok (name, next)) :
    NamedValueAt cursor item ↔ ∃ rest, (skipSpace next.pos next.rest).rest = ':' :: rest ∧
      item = skipSpace ((skipSpace next.pos next.rest).pos + 1) rest := by
  constructor
  · rintro ⟨hname, hcolon⟩
    cases h.symm.trans hname
    exact ⟨_, hcolon, rfl⟩
  · rintro ⟨rest, hcolon, rfl⟩
    exact .mk h hcolon

section Step

variable {fuel nesting : ℕ} {cursor : Cursor} (h : GivesUpWithin fuel)

include h

theorem givesUp_value_iff (hfuel : 2 * cursor.rest.length + 2 ≤ fuel + 1) :
    GivesUp (value (fuel + 1) nesting cursor) ↔ Exceeds nesting cursor := by
  obtain ⟨pos, cs⟩ := cursor
  rw [Parser.value]
  dsimp only at hfuel ⊢
  split
  · refine iff_of_false (not_givesUp_error rfl) ?_
    rw [exceeds_iff_longNumber (by simp) (by simp)]
    exact not_longNumber_nil
  · have hother : ∀ rest, ¬Exceeds nesting ⟨pos, '"' :: rest⟩ := fun rest => by
      rw [exceeds_iff_longNumber (by simp) (by simp)]
      exact not_longNumber_cons rfl (by decide) rest
    split
    · next hstring =>
      exact iff_of_false (mt (givesUp_passed_on hstring).1 (not_givesUp_string _ _ _ _)) (hother _)
    · exact iff_of_false (not_givesUp_ok _) (hother _)
  · next rest =>
    have hskip := length_skipSpace_le (pos + 1) rest
    rw [List.length_cons] at hfuel
    split
    · exact iff_of_true (givesUp_error_iff.2 rfl) .list
    · rw [exceeds_list_iff]
      split
      · next hclose => exact iff_of_false (not_givesUp_ok _) (not_someItemExceeds_close hclose)
      · exact h.elements (by omega)
  · next rest =>
    have hskip := length_skipSpace_le (pos + 1) rest
    rw [List.length_cons] at hfuel
    split
    · exact iff_of_true (givesUp_error_iff.2 rfl) .object
    · rw [exceeds_object_iff]
      split
      · next hclose =>
        refine iff_of_false (not_givesUp_ok _) ?_
        rw [someMemberExceeds_iff]
        rintro ⟨first, hnamed, -⟩
        exact not_namedValueAt_of_error (readName_of_ne (by simp [hclose])) hnamed
      · exact h.members (by omega)
  · next hlist hobject =>
    rw [givesUp_scalar_iff, exceeds_iff_longNumber (fun rest hrest => hlist rest hrest)
      fun rest hrest => hobject rest hrest]

theorem givesUp_elements_iff {seen : List Json} (hfuel : 2 * cursor.rest.length + 3 ≤ fuel + 1) :
    GivesUp (elements (fuel + 1) nesting seen cursor) ↔ SomeItemExceeds nesting cursor := by
  have hfirst := @GivesUpWithin.value _ fuel h nesting cursor (by omega)
  rw [value_eq_readValue (by omega)] at hfirst
  rw [Parser.elements, value_eq_readValue (by omega), someItemExceeds_iff, ← hfirst]
  split
  · next hvalue => simp [givesUp_passed_on hvalue, hvalue]
  · next v next hvalue =>
    have hnext := (shortens _).value hvalue
    simp only [hvalue, not_givesUp_ok, false_or]
    split
    · next hclose => simp [not_givesUp_ok, hclose]
    · next hcomma =>
      have hitem := length_skipSpace_lt hcomma ((skipSpace next.pos next.rest).pos + 1)
      rw [h.elements (by omega)]
      simp [hcomma]
    · next hother =>
      refine iff_of_false (not_givesUp_error rfl) ?_
      rintro ⟨v', next', rest, heq, hcomma, -⟩
      cases heq
      exact hother _ hcomma

theorem givesUp_members_iff {seen : Members} (hfuel : 2 * cursor.rest.length + 3 ≤ fuel + 1) :
    GivesUp (members (fuel + 1) nesting seen cursor) ↔ SomeMemberExceeds nesting cursor := by
  rw [Parser.members, someMemberExceeds_iff]
  split
  · next rest hrest =>
    have hlength := congrArg List.length hrest
    rw [List.length_cons] at hlength
    rw [string_eq_readName hrest (by omega)]
    split
    · next hname =>
      refine iff_of_false (mt (givesUp_passed_on hname).1 (not_givesUp_readName cursor)) ?_
      rintro ⟨first, hnamed, -⟩
      exact not_namedValueAt_of_error hname hnamed
    · next name afterName hname =>
      have hafterName := length_readName_lt hname
      simp only [namedValueAt_iff hname]
      split
      · next rest' hcolon =>
        have hitem := length_skipSpace_lt hcolon ((skipSpace afterName.pos afterName.rest).pos + 1)
        have hfirst := @GivesUpWithin.value _ fuel h nesting
          (skipSpace ((skipSpace afterName.pos afterName.rest).pos + 1) rest') (by omega)
        rw [value_eq_readValue (by omega)] at hfirst
        rw [value_eq_readValue (by omega)]
        simp only [hcolon, List.cons.injEq, true_and, exists_eq_left', exists_eq_left, ← hfirst]
        split
        · next hvalue => simp [givesUp_passed_on hvalue, hvalue]
        · next v next hvalue =>
          have hnext := (shortens _).value hvalue
          simp only [hvalue, not_givesUp_ok, false_or]
          split
          · next hclose => simp [not_givesUp_ok, hclose]
          · next hcomma =>
            have hmember := length_skipSpace_lt hcomma ((skipSpace next.pos next.rest).pos + 1)
            rw [h.members (by omega)]
            simp [hcomma]
          · next hother =>
            refine iff_of_false (not_givesUp_error rfl) ?_
            rintro ⟨v', next', rest, heq, hcomma, -⟩
            cases heq
            exact hother _ hcomma
      · next hother =>
        refine iff_of_false (not_givesUp_error rfl) ?_
        rintro ⟨first, ⟨rest', hcolon, -⟩, -⟩
        exact hother _ hcolon
  · next hquote =>
    refine iff_of_false (not_givesUp_error rfl) ?_
    rintro ⟨first, hnamed, -⟩
    exact not_namedValueAt_of_error (readName_of_ne hquote) hnamed

end Step

theorem givesUpWithin (fuel : ℕ) : GivesUpWithin fuel := by
  induction fuel with
  | zero => exact ⟨fun h => by omega, fun h => by omega, fun h => by omega⟩
  | succ fuel ih => exact ⟨givesUp_value_iff ih, givesUp_elements_iff ih, givesUp_members_iff ih⟩

end DartRecords.Json.Parser

namespace DartRecords.Json

open DartRecords.Json.Parser

variable [Limits] [LoneHalves]

/-- Reading the text ends at a limit of the reader: a list or an object starts inside too many
others, or a whole number has too many digits, and there is no fault of syntax before. -/
def Overwhelms (cs : List Char) : Prop := Exceeds Limits.nesting (skipSpace 0 cs)

/-- A byte order mark is neither a bracket nor part of a number. -/
theorem not_overwhelms_mark (rest : List Char) : ¬Overwhelms ('\uFEFF' :: rest) := by
  rw [Overwhelms, skipSpace_of_not_space 0 (by decide), exceeds_iff_longNumber (by simp) (by simp)]
  exact not_longNumber_cons rfl (by decide) rest

theorem givesUp_parseChars_iff {cs : List Char} : GivesUp (parseChars cs) ↔ Overwhelms cs := by
  have hskip := length_skipSpace_le 0 cs
  have hvalue := @GivesUpWithin.value _ _ (givesUpWithin (2 * cs.length + 2)) Limits.nesting
    (skipSpace 0 cs) (by omega)
  unfold parseChars
  split
  · exact iff_of_false (not_givesUp_error rfl) (not_overwhelms_mark _)
  · rw [Overwhelms, ← hvalue]
    split
    · next hread => exact givesUp_passed_on hread
    · next hread =>
      rw [hread]
      refine iff_of_false ?_ (not_givesUp_ok _)
      dsimp only
      split
      · exact not_givesUp_ok _
      · exact not_givesUp_error rfl

end DartRecords.Json

namespace DartRecords

/-- A text is refused exactly if it overwhelms the reader. -/
theorem refused_iff_overwhelms [Limits] [Json.LoneHalves] {cs : List Char} :
    (∃ cause, parseDocument cs = .error (.refused cause)) ↔ Json.Overwhelms cs := by
  rw [← Json.givesUp_parseChars_iff, parseDocument]
  cases Json.parseChars cs with
  | ok v => simp [Json.Parser.not_givesUp_ok]
  | error e =>
    rw [Json.Parser.givesUp_error_iff]
    cases hrefusal : e.refusal? with
    | none => simp [hrefusal]
    | some cause => simp [hrefusal]

end DartRecords
