import DartRecords.Json.Depth
import DartRecords.Proofs.NumberTexts
import DartRecords.Proofs.StringTexts

/-!
# Reading values back

`Readable` has the values that a reader can give: the names in an object are distinct, whole numbers
are not too long, and doubles are within their range.  The indented text of such a value is read
back, if it is not nested too deeply (`parseChars_indented`).  The induction is on the value, and
what follows its text is arbitrary as long as it cannot continue a number (`ReadsBack`); a list and
an object are read item by item and member by member (`elements_text`, `members_text`).
-/

namespace DartRecords.Json

/-- A value that a reader can give. -/
inductive Readable : Json → Prop
  | null : Readable .null
  | bool (b : Bool) : Readable (.bool b)
  | int {n : ℤ} : n.natAbs < Nat.pow 10 maxDigits → Readable (.int n)
  | real {x : Binary64} : x.Valid → Readable (.real x)
  | str (s : String) : Readable (.str s)
  | arr {items : List Json} : (∀ v ∈ items, Readable v) → Readable (.arr items)
  | obj {members : Members} : (members.map Prod.fst).Nodup → (∀ m ∈ members, Readable m.2) →
    Readable (.obj members)

theorem insert_of_not_mem {key : String} {members : Members} (h : key ∉ members.map Prod.fst)
    (v : Json) :
    Json.insert key v members = members ++ [(key, v)] := by
  induction members with
  | nil => rfl
  | cons other members ih =>
    obtain ⟨k, w⟩ := other
    rw [List.map_cons, List.mem_cons, not_or] at h
    rw [Json.insert, if_neg (Ne.symm h.1), ih h.2]
    rfl

namespace Parser

/-! ## Blanks -/

theorem skipSpace_blanks {blanks : List Char} (hblanks : ∀ c ∈ blanks, isSpace c = true) {c : Char}
    (hc : isSpace c = false) (pos : ℕ) (cs : List Char) :
    skipSpace pos (blanks ++ c :: cs) = ⟨pos + blanks.length, c :: cs⟩ := by
  induction blanks generalizing pos with
  | nil => rw [List.nil_append, skipSpace, hc]; rfl
  | cons blank blanks ih =>
    obtain ⟨hblank, hblanks⟩ := List.forall_mem_cons.1 hblanks
    rw [List.cons_append, skipSpace, hblank, if_pos rfl, ih hblanks, List.length_cons,
      Nat.add_assoc, Nat.add_comm 1]

theorem isSpace_of_mem_newline {depth : ℕ} {c : Char} (h : c ∈ newline depth) :
    isSpace c = true := by
  obtain rfl | h := List.mem_cons.1 h
  · rfl
  · rw [List.eq_of_mem_replicate h]
    rfl

/-- A new line is skipped. -/
theorem skipSpace_newline (depth pos : ℕ) {c : Char} (hc : isSpace c = false) (cs : List Char) :
    ∃ next, skipSpace pos (newline depth ++ c :: cs) = ⟨next, c :: cs⟩ :=
  ⟨_, skipSpace_blanks (fun _ => isSpace_of_mem_newline) hc pos cs⟩

theorem skipSpace_of_not_space (pos : ℕ) {c : Char} (hc : isSpace c = false) (cs : List Char) :
    skipSpace pos (c :: cs) = ⟨pos, c :: cs⟩ := by
  rw [skipSpace, hc]
  rfl

/-! ## Written texts -/

theorem length_le_escaped (s : List Char) : s.length ≤ (s.flatMap escapeChar).length := by
  induction s with
  | nil => exact le_rfl
  | cons c s ih =>
    have hpos : 0 < (escapeChar c).length := by
      obtain ⟨_, -, hwritten⟩ | ⟨-, hwritten⟩ | ⟨-, -, -, hwritten⟩ := escapeChar_cases c
      · rw [hwritten]
        exact Nat.succ_pos _
      · rw [hwritten]
        exact Nat.succ_pos _
      · rw [hwritten]
        exact Nat.succ_pos _
    rw [List.flatMap_cons, List.length_append, List.length_cons]
    omega

theorem stringText_append (cs rest : List Char) :
    stringText cs ++ rest = '"' :: (cs.flatMap escapeChar ++ '"' :: rest) := by
  simp [stringText]

theorem indentedMembers_starts (depth : ℕ) (m : String × Json) (items : Members) :
    ∃ cs, indentedMembers depth (m :: items) = '"' :: cs := by
  obtain ⟨name, v⟩ := m
  cases items with
  | nil => exact ⟨_, rfl⟩
  | cons other items => exact ⟨_, rfl⟩

theorem delimited_newline (depth : ℕ) (rest : List Char) : Delimited (newline depth ++ rest) := by
  rintro c ⟨⟩
  exact .inr rfl

theorem delimited_nil : Delimited [] := by
  rintro c ⟨⟩

theorem delimited_comma (rest : List Char) : Delimited (',' :: rest) := by
  rintro c ⟨⟩
  exact .inl rfl

/-! ## Reading one value -/

/-- The character starts the text of a value. -/
structure StartsValue (c : Char) : Prop where
  not_space : isSpace c = false
  not_closing : c ≠ ']'
  not_mark : c ≠ '\uFEFF'

theorem StartsScalar.ne {c d : Char} (h : StartsScalar c) (hdigit : isDigit d = false)
    (hmem : d ∉ ['-', 'n', 't', 'f', 'N', 'I']) : c ≠ d := by
  rintro rfl
  obtain h | h := h
  · exact absurd (h.symm.trans hdigit) (by decide)
  · exact hmem h

theorem StartsScalar.startsValue {c : Char} (h : StartsScalar c) : StartsValue c := by
  refine ⟨?_, h.ne rfl (by decide), h.ne rfl (by decide)⟩
  have hspace := h.ne (d := ' ') rfl (by decide)
  have htab := h.ne (d := '\t') rfl (by decide)
  have hnewline := h.ne (d := '\n') rfl (by decide)
  have hreturn := h.ne (d := '\r') rfl (by decide)
  simp [isSpace, hspace, htab, hnewline, hreturn]

variable [LoneHalves]

/-- The indented text of the value is read back, whatever follows. -/
structure ReadsBack (v : Json) : Prop where
  starts : ∀ depth, ∃ c cs, indented depth v = c :: cs ∧ StartsValue c
  reads : ∀ (depth fuel nesting pos : ℕ) {rest : List Char}, v.nesting ≤ nesting →
    2 * (indented depth v).length < fuel →
    Delimited rest → ∃ next, value fuel nesting ⟨pos, indented depth v ++ rest⟩ =
      .ok (v, ⟨next, rest⟩)

theorem value_scalar {c : Char} (hc : StartsScalar c) (fuel nesting pos : ℕ) (cs : List Char) :
    value (fuel + 1) nesting ⟨pos, c :: cs⟩ = scalar ⟨pos, c :: cs⟩ := by
  rw [value]
  split
  · next heq => cases heq
  · next heq => exact absurd (List.cons.inj heq).1 (hc.ne rfl (by decide))
  · next heq => exact absurd (List.cons.inj heq).1 (hc.ne rfl (by decide))
  · next heq => exact absurd (List.cons.inj heq).1 (hc.ne rfl (by decide))
  · rfl

theorem value_string {fuel pos next : ℕ} {s : String} {cs rest : List Char}
    (h : string pos fuel [] ⟨pos + 1, cs⟩ = .ok (s, ⟨next, rest⟩)) (nesting : ℕ) :
    value (fuel + 1) nesting ⟨pos, '"' :: cs⟩ = .ok (.str s, ⟨next, rest⟩) := by
  rw [value]
  simp only [h]

theorem value_list {c : Char} (hc : c ≠ ']') (fuel nesting : ℕ) {pos next : ℕ} {text cs : List Char}
    (hskip : skipSpace (pos + 1) text = ⟨next, c :: cs⟩) :
    value (fuel + 1) (nesting + 1) ⟨pos, '[' :: text⟩ =
      elements fuel nesting [] ⟨next, c :: cs⟩ := by
  rw [value]
  simp only [hskip]
  split
  · next heq => exact absurd (List.cons.inj heq).1 hc
  · rfl

theorem value_object (fuel nesting : ℕ) {pos next : ℕ} {text cs : List Char}
    (hskip : skipSpace (pos + 1) text = ⟨next, '"' :: cs⟩) :
    value (fuel + 1) (nesting + 1) ⟨pos, '\x7b' :: text⟩ =
      members fuel nesting [] ⟨next, '"' :: cs⟩ := by
  rw [value]
  simp only [hskip]
  split
  · next heq => exact absurd (List.cons.inj heq).1 (by decide)
  · rfl

theorem readsBack_scalar {v : Json} {text : List Char} (htext : ∀ depth, indented depth v = text)
    (h : ReadsScalar text v) : ReadsBack v := by
  obtain ⟨⟨c, cs, rfl, hc⟩, hreads⟩ := h
  refine ⟨fun depth => ⟨c, cs, htext depth, hc.startsValue⟩,
    fun depth fuel nesting pos rest _ hfuel hrest => ?_⟩
  obtain ⟨fuel, rfl⟩ := Nat.exists_eq_succ_of_ne_zero (Nat.ne_zero_of_lt hfuel)
  obtain ⟨next, hnext⟩ := hreads hrest pos
  refine ⟨next, ?_⟩
  rw [htext, ← hnext]
  exact value_scalar hc fuel nesting pos (cs ++ rest)

/-- A string is read back with fuel for its text. -/
theorem string_text (s : String) {fuel : ℕ} (hfuel : (stringText s.toList).length ≤ fuel)
    (start pos : ℕ) (rest : List Char) :
    ∃ next, string start fuel [] ⟨pos, s.toList.flatMap escapeChar ++ '"' :: rest⟩ =
      .ok (s, ⟨next, rest⟩) := by
  have hlength : (stringText s.toList).length = (s.toList.flatMap escapeChar).length + 2 := by
    simp [stringText]
  have hshort := length_le_escaped s.toList
  obtain ⟨next, hnext⟩ := string_body s.toList start fuel (by omega) [] pos rest
  exact ⟨next, by rw [hnext, List.reverse_nil, List.nil_append, String.ofList_toList]⟩

theorem readsBack_str (s : String) : ReadsBack (.str s) := by
  refine ⟨fun depth => ⟨'"', _, rfl, rfl, by decide, by decide⟩,
    fun depth fuel nesting pos rest _ hfuel hrest => ?_⟩
  have htext : indented depth (.str s) = stringText s.toList := rfl
  rw [htext] at hfuel ⊢
  obtain ⟨fuel, rfl⟩ := Nat.exists_eq_succ_of_ne_zero (Nat.ne_zero_of_lt hfuel)
  obtain ⟨next, hnext⟩ :=
    string_text s (show (stringText s.toList).length ≤ fuel by omega) pos (pos + 1) rest
  exact ⟨next, by rw [stringText_append]; exact value_string hnext nesting⟩

/-! ## Lists -/

theorem elements_last {fuel nesting pos next last : ℕ} {v : Json} {seen : List Json}
    {cs rest rest' : List Char} (hvalue : value fuel nesting ⟨pos, cs⟩ = .ok (v, ⟨next, rest⟩))
    (hskip : skipSpace next rest = ⟨last, ']' :: rest'⟩) :
    elements (fuel + 1) nesting seen ⟨pos, cs⟩ =
      .ok (.arr (v :: seen).reverse, ⟨last + 1, rest'⟩) := by
  rw [elements]
  simp only [hvalue, hskip]

theorem elements_next {fuel nesting pos next : ℕ} {v : Json} {seen : List Json}
    {cs rest : List Char} (hvalue : value fuel nesting ⟨pos, cs⟩ = .ok (v, ⟨next, ',' :: rest⟩)) :
    elements (fuel + 1) nesting seen ⟨pos, cs⟩ =
      elements fuel nesting (v :: seen) (skipSpace (next + 1) rest) := by
  rw [elements]
  simp only [hvalue, skipSpace_of_not_space next (show isSpace ',' = false from rfl) rest]

theorem indentedItems_starts {v : Json} (hv : ReadsBack v) (depth : ℕ) (items : List Json) :
    ∃ c cs, indentedItems depth (v :: items) = c :: cs ∧ StartsValue c := by
  obtain ⟨c, cs, htext, hc⟩ := hv.starts depth
  cases items with
  | nil => exact ⟨c, cs, htext, hc⟩
  | cons w items =>
    refine ⟨c, cs ++ (',' :: newline depth ++ indentedItems depth (w :: items)), ?_, hc⟩
    change indented depth v ++ ',' :: newline depth ++ indentedItems depth (w :: items) = _
    rw [htext, List.append_assoc]
    rfl

/-- The items of a list are read back, one after another. -/
theorem elements_text {items : List Json} (h : ∀ v ∈ items, ReadsBack v) (hne : items ≠ [])
    {depth fuel nesting : ℕ} (hnesting : ∀ v ∈ items, v.nesting ≤ nesting)
    (hfuel : 2 * (indentedItems depth items).length + 1 < fuel) (seen : List Json) (outer pos : ℕ)
    (rest : List Char) :
    ∃ next, elements fuel nesting seen ⟨pos,
      indentedItems depth items ++ (newline outer ++ ']' :: rest)⟩ =
      .ok (.arr (seen.reverse ++ items), ⟨next, rest⟩) := by
  induction items generalizing fuel seen pos with
  | nil => exact absurd rfl hne
  | cons v items ih =>
    obtain ⟨hv, hitems⟩ := List.forall_mem_cons.1 h
    obtain ⟨hvnesting, hitemsNesting⟩ := List.forall_mem_cons.1 hnesting
    obtain ⟨fuel, rfl⟩ := Nat.exists_eq_succ_of_ne_zero (Nat.ne_zero_of_lt hfuel)
    cases items with
    | nil =>
      rw [indentedItems] at hfuel ⊢
      obtain ⟨next, hnext⟩ :=
        hv.reads depth fuel nesting pos hvnesting (by omega) (delimited_newline outer (']' :: rest))
      obtain ⟨last, hlast⟩ := skipSpace_newline outer next (show isSpace ']' = false from rfl) rest
      exact ⟨last + 1, by rw [elements_last hnext hlast, List.reverse_cons]⟩
    | cons w items =>
      have htext : indentedItems depth (v :: w :: items) =
          indented depth v ++ ',' :: newline depth ++ indentedItems depth (w :: items) := rfl
      rw [htext] at hfuel ⊢
      simp only [List.length_append, List.length_cons, newline] at hfuel
      obtain ⟨c, cs, hstart, hc⟩ := indentedItems_starts (hitems w List.mem_cons_self) depth items
      obtain ⟨next, hnext⟩ := hv.reads depth fuel nesting pos hvnesting (by omega)
        (delimited_comma (newline depth ++
          (indentedItems depth (w :: items) ++ (newline outer ++ ']' :: rest))))
      obtain ⟨more, hmore⟩ :=
        skipSpace_newline depth (next + 1) hc.not_space (cs ++ (newline outer ++ ']' :: rest))
      obtain ⟨last, hlast⟩ :=
        @ih hitems (List.cons_ne_nil w items) fuel hitemsNesting (by omega) (v :: seen) more
      refine ⟨last, ?_⟩
      rw [List.reverse_cons, List.append_assoc] at hlast
      rw [List.append_assoc, List.append_assoc, List.cons_append, elements_next hnext]
      rw [hstart] at hlast ⊢
      rw [List.cons_append, hmore]
      exact hlast

theorem readsBack_arr {items : List Json} (h : ∀ v ∈ items, ReadsBack v) :
    ReadsBack (.arr items) := by
  refine ⟨fun depth => ?_, fun depth fuel nesting pos rest hnesting hfuel _ => ?_⟩
  · cases items with
    | nil => exact ⟨'[', _, rfl, rfl, by decide, by decide⟩
    | cons v items => exact ⟨'[', _, rfl, rfl, by decide, by decide⟩
  obtain ⟨fuel, rfl⟩ := Nat.exists_eq_succ_of_ne_zero (Nat.ne_zero_of_lt hfuel)
  rw [Json.nesting, Json.height_arr] at hnesting
  obtain ⟨nesting, rfl⟩ := Nat.exists_eq_succ_of_ne_zero (Nat.ne_zero_of_lt hnesting)
  cases items with
  | nil => exact ⟨_, rfl⟩
  | cons v items =>
    have htext : indented depth (.arr (v :: items)) =
        '[' :: newline (depth + 1) ++ indentedItems (depth + 1) (v :: items) ++ newline depth ++
        [']'] := rfl
    have hitems : 2 * (indentedItems (depth + 1) (v :: items)).length + 1 < fuel := by
      simp only [htext, List.length_append, List.length_cons] at hfuel
      omega
    have hrest : indented depth (.arr (v :: items)) ++ rest = '[' :: (newline (depth + 1) ++
        (indentedItems (depth + 1) (v :: items) ++ (newline depth ++ ']' :: rest))) := by
          simp [htext]
    obtain ⟨c, cs, hstart, hc⟩ := indentedItems_starts (h v List.mem_cons_self) (depth + 1) items
    obtain ⟨next, hnext⟩ :=
      skipSpace_newline (depth + 1) (pos + 1) hc.not_space (cs ++ (newline depth ++ ']' :: rest))
    have hnested : ∀ w ∈ v :: items, w.nesting ≤ nesting := fun w hw =>
      Nat.le_of_lt_succ ((height_lt_of_mem_items hw).trans_le hnesting)
    obtain ⟨last, hlast⟩ :=
      elements_text h (List.cons_ne_nil v items) hnested hitems [] depth next rest
    refine ⟨last, ?_⟩
    rw [hstart] at hlast
    rw [hrest, hstart, List.cons_append, value_list hc.not_closing fuel nesting hnext]
    exact hlast

/-! ## Objects -/

section Member

variable {fuel nesting pos afterName afterColon next : ℕ} {name : String} {v : Json}
    {seen : Members}
  {cs text rest : List Char}
  (hname : string pos fuel [] ⟨pos + 1, cs⟩ = .ok (name, ⟨afterName, ':' :: ' ' :: text⟩))
  (hskip : skipSpace (afterName + 1) (' ' :: text) = ⟨afterColon, text⟩)
  (hvalue : value fuel nesting ⟨afterColon, text⟩ = .ok (v, ⟨next, rest⟩))

include hname hskip hvalue

theorem members_last {last : ℕ} {rest' : List Char}
    (hlast : skipSpace next rest = ⟨last, '\x7d' :: rest'⟩) :
    members (fuel + 1) nesting seen ⟨pos, '"' :: cs⟩ =
      .ok (.obj (Json.insert name v seen), ⟨last + 1, rest'⟩) := by
  rw [members]
  simp only [hname, skipSpace_of_not_space afterName (show isSpace ':' = false from rfl)
    (' ' :: text), hskip, hvalue, hlast]

theorem members_next {rest' : List Char} (hrest : rest = ',' :: rest') :
    members (fuel + 1) nesting seen ⟨pos, '"' :: cs⟩ =
      members fuel nesting (Json.insert name v seen) (skipSpace (next + 1) rest') := by
  subst hrest
  rw [members]
  simp only [hname, skipSpace_of_not_space afterName (show isSpace ':' = false from rfl)
    (' ' :: text), hskip, hvalue,
      skipSpace_of_not_space next (show isSpace ',' = false from rfl) rest']

end Member

/-- The name and the value of one member are read back. -/
theorem member_text (name : String) {v : Json} (hv : ReadsBack v) (depth fuel : ℕ) {nesting : ℕ}
    (hnesting : v.nesting ≤ nesting)
    (hfuel : 2 * (stringText name.toList ++ ':' :: ' ' :: indented depth v).length < fuel)
    {after : List Char} (hafter : Delimited after) (pos : ℕ) :
    ∃ cs afterName afterColon next,
      stringText name.toList ++ ':' :: ' ' :: (indented depth v ++ after) = '"' :: cs ∧
      string pos fuel [] ⟨pos + 1, cs⟩ =
        .ok (name, ⟨afterName, ':' :: ' ' :: (indented depth v ++ after)⟩) ∧
      skipSpace (afterName + 1) (' ' :: (indented depth v ++ after)) =
        ⟨afterColon, indented depth v ++ after⟩ ∧
      value fuel nesting ⟨afterColon, indented depth v ++ after⟩ = .ok (v, ⟨next, after⟩) := by
  simp only [List.length_append, List.length_cons] at hfuel
  obtain ⟨c, cs, hstart, hc⟩ := hv.starts depth
  obtain ⟨afterName, hname⟩ :=
    string_text name (show (stringText name.toList).length ≤ fuel by omega) pos (pos + 1)
    (':' :: ' ' :: (indented depth v ++ after))
  have hskip : skipSpace (afterName + 1) (' ' :: (indented depth v ++ after)) =
      ⟨afterName + 1 + 1, indented depth v ++ after⟩ := by
    rw [hstart]
    exact skipSpace_blanks (List.forall_mem_singleton.2 rfl) hc.not_space (afterName + 1)
      (cs ++ after)
  obtain ⟨next, hnext⟩ := hv.reads depth fuel nesting (afterName + 1 + 1) hnesting (by omega) hafter
  exact ⟨_, afterName, _, next, stringText_append _ _, hname, hskip, hnext⟩

/-- The last member of an object is read back. -/
theorem members_text_last (name : String) {v : Json} (hv : ReadsBack v) (depth fuel : ℕ)
    {nesting : ℕ} (hnesting : v.nesting ≤ nesting)
    (hfuel : 2 * (stringText name.toList ++ ':' :: ' ' :: indented depth v).length < fuel)
    (seen : Members) (outer pos : ℕ) (rest : List Char) :
    ∃ last, members (fuel + 1) nesting seen
        ⟨pos, stringText name.toList ++ ':' :: ' ' ::
          (indented depth v ++ (newline outer ++ '\x7d' :: rest))⟩ =
      .ok (.obj (Json.insert name v seen), ⟨last, rest⟩) := by
  obtain ⟨cs, _, _, next, hcs, hname, hskip, hvalue⟩ :=
    member_text name hv depth fuel hnesting hfuel (delimited_newline outer ('\x7d' :: rest)) pos
  obtain ⟨last, hlast⟩ := skipSpace_newline outer next (show isSpace '\x7d' = false from rfl) rest
  exact ⟨last + 1, by rw [hcs, members_last hname hskip hvalue hlast]⟩

/-- A member that is followed by others is read back. -/
theorem members_text_next (name : String) {v : Json} (hv : ReadsBack v) (depth fuel : ℕ)
    {nesting : ℕ} (hnesting : v.nesting ≤ nesting)
    (hfuel : 2 * (stringText name.toList ++ ':' :: ' ' :: indented depth v).length < fuel)
    (seen : Members) (pos : ℕ) (rest : List Char) :
    ∃ next, members (fuel + 1) nesting seen
        ⟨pos, stringText name.toList ++ ':' :: ' ' :: (indented depth v ++ ',' :: rest)⟩ =
      members fuel nesting (Json.insert name v seen) (skipSpace next rest) := by
  obtain ⟨cs, _, _, next, hcs, hname, hskip, hvalue⟩ :=
    member_text name hv depth fuel hnesting hfuel (delimited_comma rest) pos
  exact ⟨next + 1, by rw [hcs, members_next hname hskip hvalue rfl]⟩

/-- The members of an object are read back, one after another. -/
theorem members_text {seen items : Members} (h : ∀ m ∈ items, ReadsBack m.2) (hne : items ≠ [])
    (hnodup : ((seen ++ items).map Prod.fst).Nodup) {depth fuel nesting : ℕ}
    (hnesting : ∀ m ∈ items, m.2.nesting ≤ nesting)
    (hfuel : 2 * (indentedMembers depth items).length + 1 < fuel) (outer pos : ℕ)
    (rest : List Char) :
    ∃ next, members fuel nesting seen ⟨pos,
      indentedMembers depth items ++ (newline outer ++ '\x7d' :: rest)⟩ =
      .ok (.obj (seen ++ items), ⟨next, rest⟩) := by
  induction items generalizing fuel seen pos with
  | nil => exact absurd rfl hne
  | cons m items ih =>
    obtain ⟨name, v⟩ := m
    have hv : ReadsBack v := h (name, v) List.mem_cons_self
    have hvnesting : v.nesting ≤ nesting := hnesting (name, v) List.mem_cons_self
    have hitems : ∀ m ∈ items, ReadsBack m.2 := fun m hm => h m (List.mem_cons_of_mem _ hm)
    have hitemsNesting : ∀ m ∈ items, m.2.nesting ≤ nesting :=
      fun m hm => hnesting m (List.mem_cons_of_mem _ hm)
    obtain ⟨fuel, rfl⟩ := Nat.exists_eq_succ_of_ne_zero (Nat.ne_zero_of_lt hfuel)
    have hinsert : Json.insert name v seen = seen ++ [(name, v)] := by
      refine insert_of_not_mem (fun hmem => ?_) v
      rw [List.map_append, List.map_cons] at hnodup
      exact (List.disjoint_of_nodup_append hnodup) hmem List.mem_cons_self
    cases items with
    | nil =>
      have htext : indentedMembers depth [(name, v)] =
          stringText name.toList ++ ':' :: ' ' :: indented depth v := rfl
      rw [htext] at hfuel ⊢
      obtain ⟨last, hlast⟩ :=
        members_text_last name hv depth fuel hvnesting (by omega) seen outer pos rest
      exact ⟨last, by rw [List.append_assoc, List.cons_append, List.cons_append, hlast, hinsert]⟩
    | cons other items =>
      have htext : indentedMembers depth ((name, v) :: other :: items) =
          stringText name.toList ++ ':' :: ' ' :: indented depth v
            ++ ',' :: newline depth ++ indentedMembers depth (other :: items) := rfl
      rw [htext] at hfuel ⊢
      rw [List.length_append, List.length_append, List.length_cons] at hfuel
      obtain ⟨next, hnext⟩ := members_text_next name hv depth fuel hvnesting (by omega) seen pos
        (newline depth ++
          (indentedMembers depth (other :: items) ++ (newline outer ++ '\x7d' :: rest)))
      obtain ⟨more, hstart⟩ := indentedMembers_starts depth other items
      obtain ⟨second, hsecond⟩ := skipSpace_newline depth next (show isSpace '"' = false from rfl)
        (more ++ (newline outer ++ '\x7d' :: rest))
      have hnodup' : ((seen ++ [(name, v)] ++ other :: items).map Prod.fst).Nodup := by
        rwa [List.append_assoc]
      obtain ⟨last, hlast⟩ :=
        @ih (seen ++ [(name, v)]) hitems (List.cons_ne_nil other items) hnodup' fuel hitemsNesting
        (by omega) second
      refine ⟨last, ?_⟩
      rw [List.append_assoc] at hlast
      rw [List.append_assoc, List.append_assoc, List.append_assoc, List.cons_append,
        List.cons_append, List.cons_append, hnext, hinsert]
      rw [hstart] at hlast ⊢
      rw [List.cons_append, hsecond]
      exact hlast

theorem readsBack_obj {items : Members} (hnodup : (items.map Prod.fst).Nodup)
    (h : ∀ m ∈ items, ReadsBack m.2) :
    ReadsBack (.obj items) := by
  refine ⟨fun depth => ?_, fun depth fuel nesting pos rest hnesting hfuel _ => ?_⟩
  · cases items with
    | nil => exact ⟨'\x7b', _, rfl, rfl, by decide, by decide⟩
    | cons m items => exact ⟨'\x7b', _, rfl, rfl, by decide, by decide⟩
  obtain ⟨fuel, rfl⟩ := Nat.exists_eq_succ_of_ne_zero (Nat.ne_zero_of_lt hfuel)
  rw [Json.nesting, Json.height_obj] at hnesting
  obtain ⟨nesting, rfl⟩ := Nat.exists_eq_succ_of_ne_zero (Nat.ne_zero_of_lt hnesting)
  cases items with
  | nil => exact ⟨_, rfl⟩
  | cons m items =>
    have htext : indented depth (.obj (m :: items)) =
        '\x7b' :: newline (depth + 1) ++ indentedMembers (depth + 1) (m :: items) ++
        newline depth ++ ['\x7d'] := rfl
    have hitems : 2 * (indentedMembers (depth + 1) (m :: items)).length + 1 < fuel := by
      simp only [htext, List.length_append, List.length_cons] at hfuel
      omega
    have hrest : indented depth (.obj (m :: items)) ++ rest = '\x7b' :: (newline (depth + 1) ++
        (indentedMembers (depth + 1) (m :: items) ++ (newline depth ++ '\x7d' :: rest))) := by
          simp [htext]
    obtain ⟨cs, hstart⟩ := indentedMembers_starts (depth + 1) m items
    obtain ⟨next, hnext⟩ :=
      skipSpace_newline (depth + 1) (pos + 1) (show isSpace '"' = false from rfl)
      (cs ++ (newline depth ++ '\x7d' :: rest))
    have hnested : ∀ other ∈ m :: items, other.2.nesting ≤ nesting := fun other hother =>
      Nat.le_of_lt_succ ((height_lt_of_mem_members hother).trans_le hnesting)
    obtain ⟨last, hlast⟩ :=
      @members_text _ [] _ h (List.cons_ne_nil m items) hnodup _ _ _ hnested hitems depth next rest
    refine ⟨last, ?_⟩
    rw [hstart] at hlast
    rw [hrest, hstart, List.cons_append, value_object fuel nesting hnext]
    exact hlast

end Parser

/-! ## Whole texts -/

theorem Readable.readsBack [LoneHalves] {v : Json} (h : Readable v) : Parser.ReadsBack v := by
  induction h with
  | null =>
    exact Parser.readsBack_scalar (fun _ => rfl) ⟨⟨'n', _, rfl, .inr (by decide)⟩,
      fun _ _ => ⟨_, rfl⟩⟩
  | bool b =>
    cases b with
    | true =>
      exact Parser.readsBack_scalar (fun _ => rfl) ⟨⟨'t', _, rfl, .inr (by decide)⟩,
        fun _ _ => ⟨_, rfl⟩⟩
    | false =>
      exact Parser.readsBack_scalar (fun _ => rfl) ⟨⟨'f', _, rfl, .inr (by decide)⟩,
        fun _ _ => ⟨_, rfl⟩⟩
  | int hn => exact Parser.readsBack_scalar (fun _ => rfl) (Parser.readsScalar_int hn)
  | real hx => exact Parser.readsBack_scalar (fun _ => rfl) (Parser.readsScalar_real hx)
  | str s => exact Parser.readsBack_str s
  | arr _ ih => exact Parser.readsBack_arr ih
  | obj hnodup _ ih => exact Parser.readsBack_obj hnodup ih

/-- The indented text of a readable value that is not nested too deeply is read back. -/
theorem parseChars_indented [Limits] [LoneHalves] {v : Json} (h : Readable v)
    (hnesting : v.nesting ≤ Limits.nesting) :
    parseChars (indented 0 v) = .ok v := by
  obtain ⟨c, cs, hstart, hc⟩ := h.readsBack.starts 0
  obtain ⟨next, hnext⟩ :=
    h.readsBack.reads 0 (2 * (indented 0 v).length + 2) Limits.nesting 0 hnesting (by omega)
    Parser.delimited_nil
  rw [List.append_nil] at hnext
  have hskip : Parser.skipSpace 0 (indented 0 v) = ⟨0, indented 0 v⟩ := by
    rw [hstart]
    exact Parser.skipSpace_of_not_space 0 hc.not_space cs
  rw [parseChars, hskip, hnext]
  · rfl
  · intro tail hmark
    rw [hstart] at hmark
    exact hc.not_mark (List.cons.inj hmark).1

end DartRecords.Json
