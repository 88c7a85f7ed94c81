import DartRecords.Proofs.ListRelations
import DartRecords.Proofs.QuotedTexts
import DartRecords.Proofs.Words

/-!
# Requests that share an entry of the cache

A sanitizer keeps its answers under a text that is joined from the name and the options of a
request.  The lists of markers can be read off the end of that text (`append_markersText_inj`), but
what is before them is the name, the style and the suffix with bars between them, and a name or a
suffix may hold bars as well.  So two requests have the same key exactly if they are equal, or if
the name of one of them takes in the name and the style of the other one (`cacheKey_eq_iff`).

A run of requests answers each of them as the first one with the same key (`answers_eq`).  Hence the
cache cannot be seen exactly if no two requests of the run that share a key have different answers
(`cache_invisible_iff`).
-/

namespace DartRecords.Naming

open Json (listText append_listText_inj)

/-! ## Requests of texts -/

/-- A request whose name and options are texts. -/
structure TextRequest where
  name : String
  style : Style := .lowerCamel
  suffix : String := "_"
  /-- Beginnings of names that are conflicts. -/
  heads : Option (List String) := none
  /-- Endings of names that are conflicts. -/
  tails : Option (List String) := none
  deriving DecidableEq

/-- Markers as a loose value. -/
def markersValue : Option (List String) → Json
  | none => .null
  | some texts => .arr (texts.map .str)

namespace TextRequest

/-- The request with loose values. -/
def toRequest (r : TextRequest) : Request where
  name := .str r.name
  style := r.style
  suffix := .str r.suffix
  reservedHeads := markersValue r.heads
  reservedTails := markersValue r.tails

/-- The key under which the answer is kept. -/
def cacheKey (r : TextRequest) : String := r.toRequest.cacheKey

/-- The name of a request takes in the name and the style of another one, and then what its suffix
starts with; what is left of that suffix are the style and the suffix of the first one. -/
def Absorbs (r other : TextRequest) : Prop :=
  r.heads = other.heads ∧ r.tails = other.tails ∧
    ∃ rest : String, r.name = other.name ++ "|" ++ other.style.name ++ rest ∧
      "|" ++ other.suffix = rest ++ "|" ++ r.style.name ++ "|" ++ r.suffix

end TextRequest

/-! ## Keys -/

/-- The display text of markers. -/
def markersText : Option (List String) → List Char
  | none => "None".toList
  | some texts => listText texts

theorem toList_display_markersValue (markers : Option (List String)) :
    (markersValue markers).display.toList = markersText markers := by
  cases markers with
  | none => rfl
  | some texts => exact String.toList_ofList

theorem append_listText_ne_none {before before' : List Char} {texts : List String} :
    before ++ listText texts ≠ before' ++ "None".toList := by
  intro h
  have hlast := congrArg List.getLast? h
  rw [listText, Json.quoted, ← List.append_assoc, List.getLast?_concat] at hlast
  simp at hlast

/-- The display text of markers can be taken off the end in one way only. -/
theorem append_markersText_inj {before before' : List Char}
    {markers markers' : Option (List String)}
    (h : before ++ markersText markers = before' ++ markersText markers') :
    before = before' ∧ markers = markers' := by
  cases markers with
  | none =>
    cases markers' with
    | none => exact ⟨List.append_cancel_right h, rfl⟩
    | some texts' => exact absurd h.symm append_listText_ne_none
  | some texts =>
    cases markers' with
    | none => exact absurd h append_listText_ne_none
    | some texts' =>
      obtain ⟨hbefore, rfl⟩ := append_listText_inj h
      exact ⟨hbefore, rfl⟩

theorem bar_not_mem_style (style : Style) : '|' ∉ style.name.toList := by
  cases style with
  | lowerUnderscore => decide
  | lowerCamel => decide
  | upperCamel => decide
  | upperUnderscore => decide

theorem style_name_injective {style style' : Style} (h : style.name = style'.name) :
    style = style' := by
  have hread : ∀ one : Style, Style.ofName? one.name = some one := by
    intro one
    cases one with
    | lowerUnderscore => decide
    | lowerCamel => decide
    | upperCamel => decide
    | upperUnderscore => decide
  have hsame := hread style
  rw [h, hread style'] at hsame
  exact (Option.some.inj hsame).symm

/-- A style that is followed by a bar ends at or before any bar of the whole text. -/
theorem style_of_append_bar {style : Style} {suffix before after : List Char}
    (h : style.name.toList ++ '|' :: suffix = before ++ '|' :: after) :
    ∃ rest, before = style.name.toList ++ rest ∧ '|' :: suffix = rest ++ '|' :: after := by
  obtain ⟨rest, hbefore, hsuffix⟩ | ⟨rest, hstyle, hafter⟩ := List.append_eq_append_iff.1 h
  · exact ⟨rest, hbefore, hsuffix⟩
  · cases rest with
    | nil => exact ⟨[], by simpa using hstyle.symm, hafter.symm⟩
    | cons c rest =>
      rw [List.cons_append, List.cons.injEq] at hafter
      exact absurd (by simp [hstyle, ← hafter.1]) (bar_not_mem_style style)

theorem style_append_bar_inj {style style' : Style} {suffix suffix' : List Char}
    (h : style.name.toList ++ '|' :: suffix = style'.name.toList ++ '|' :: suffix') :
    style = style' ∧ suffix = suffix' := by
  obtain ⟨rest, hstyle, hsuffix⟩ := style_of_append_bar h
  cases rest with
  | nil =>
    rw [List.append_nil, String.toList_inj] at hstyle
    exact ⟨style_name_injective hstyle.symm, (List.cons.inj hsuffix).2⟩
  | cons c rest =>
    rw [List.cons_append, List.cons.injEq] at hsuffix
    exact absurd (by simp [hstyle, ← hsuffix.1]) (bar_not_mem_style style')

namespace TextRequest

variable {r other : TextRequest}

/-- What the key starts with: name, style and suffix. -/
def keyStart (r : TextRequest) : List Char :=
  r.name.toList ++ ('|' :: (r.style.name.toList ++ ('|' :: r.suffix.toList)))

theorem toList_cacheKey (r : TextRequest) :
    r.cacheKey.toList = r.keyStart ++ ['|'] ++ markersText r.heads ++ ['|'] ++
      markersText r.tails := by
  simp [cacheKey, Request.cacheKey, keyStart, toRequest, Json.display,
    ← toList_display_markersValue, String.intercalate_cons_cons]

theorem cacheKey_eq_iff_keyStart : r.cacheKey = other.cacheKey ↔
    r.keyStart = other.keyStart ∧ r.heads = other.heads ∧ r.tails = other.tails := by
  rw [← String.toList_inj, toList_cacheKey, toList_cacheKey]
  constructor
  · intro h
    obtain ⟨hheads, htails⟩ := append_markersText_inj h
    obtain ⟨hstart, hheads⟩ := append_markersText_inj (List.append_cancel_right hheads)
    exact ⟨List.append_cancel_right hstart, hheads, htails⟩
  · rintro ⟨hstart, hheads, htails⟩
    rw [hstart, hheads, htails]

/-- A name that goes on where another one ends takes in the style that follows there. -/
theorem absorbs_of_longer_name {more : List Char} (hheads : r.heads = other.heads)
    (htails : r.tails = other.tails) (hname : r.name.toList = other.name.toList ++ '|' :: more)
    (hrest : other.style.name.toList ++ '|' :: other.suffix.toList =
      more ++ '|' :: (r.style.name.toList ++ '|' :: r.suffix.toList)) : r.Absorbs other := by
  obtain ⟨rest, rfl, hsuffix⟩ := style_of_append_bar hrest
  refine ⟨hheads, htails, String.ofList rest, String.toList_inj.1 ?_, String.toList_inj.1 ?_⟩
  · simpa using hname
  · simpa using hsuffix

/-- Of two keys that start alike, the one with the longer name belongs to a request that absorbs the
other one. -/
theorem eq_or_absorbs {more : List Char} (hheads : r.heads = other.heads)
    (htails : r.tails = other.tails) (hname : r.name.toList = other.name.toList ++ more)
    (hrest : '|' :: (other.style.name.toList ++ '|' :: other.suffix.toList) =
      more ++ '|' :: (r.style.name.toList ++ '|' :: r.suffix.toList)) : r = other ∨
        r.Absorbs other := by
  cases more with
  | nil =>
    obtain ⟨hstyle, hsuffix⟩ := style_append_bar_inj (List.cons.inj hrest).2
    rw [List.append_nil, String.toList_inj] at hname
    obtain ⟨name, style, suffix, heads, tails⟩ := r
    cases hname
    cases hstyle
    cases String.toList_inj.1 hsuffix
    cases hheads
    cases htails
    exact .inl rfl
  | cons c more =>
    rw [List.cons_append, List.cons.injEq] at hrest
    obtain ⟨rfl, hrest⟩ := hrest
    exact .inr (absorbs_of_longer_name hheads htails hname hrest)

theorem Absorbs.cacheKey_eq (h : r.Absorbs other) : r.cacheKey = other.cacheKey := by
  obtain ⟨hheads, htails, rest, hname, hsuffix⟩ := h
  refine cacheKey_eq_iff_keyStart.2 ⟨?_, hheads, htails⟩
  have hchars : '|' :: other.suffix.toList =
      rest.toList ++ '|' :: (r.style.name.toList ++ '|' :: r.suffix.toList) := by
    simpa using congrArg String.toList hsuffix
  rw [keyStart, keyStart, hchars, hname]
  simp

/-- Two requests have the same key exactly if they are equal or one of them absorbs the other
one. -/
theorem cacheKey_eq_iff :
    r.cacheKey = other.cacheKey ↔ r = other ∨ r.Absorbs other ∨ other.Absorbs r := by
  constructor
  · intro h
    obtain ⟨hstart, hheads, htails⟩ := cacheKey_eq_iff_keyStart.1 h
    obtain ⟨more, hname, hrest⟩ | ⟨more, hname, hrest⟩ := List.append_eq_append_iff.1 hstart
    · obtain hsame | habsorbs := eq_or_absorbs hheads.symm htails.symm hname hrest
      · exact .inl hsame.symm
      · exact .inr (.inr habsorbs)
    · obtain hsame | habsorbs := eq_or_absorbs hheads htails hname hrest
      · exact .inl hsame
      · exact .inr (.inl habsorbs)
  · rintro (rfl | h | h)
    · rfl
    · exact h.cacheKey_eq
    · exact h.cacheKey_eq.symm

end TextRequest

/-! ## Runs of requests -/

namespace Sanitizer

/-- What a sanitizer without any earlier request answers. -/
def firstAnswer (s : Sanitizer) (r : TextRequest) : Except Mismatch String :=
  (s.sanitize r.toRequest []).1

/-- The answers to requests that are made one after the other. -/
def answers (s : Sanitizer) : List TextRequest → Cache → List (Except Mismatch String)
  | [], _ => []
  | r :: rest, cache =>
    (s.sanitize r.toRequest cache).1 :: answers s rest (s.sanitize r.toRequest cache).2

variable {s : Sanitizer}

theorem exists_marked (fits : List Char → Bool) (markers : Option (List String)) :
    ∃ found, marked fits (markersValue markers) = .ok found := by
  cases markers with
  | none => exact ⟨false, rfl⟩
  | some texts => exact ⟨_, marked_texts fits texts⟩

/-- A request of texts is always answered. -/
theorem exists_firstAnswer (s : Sanitizer) (r : TextRequest) :
    ∃ answer, s.resolve r.toRequest = .ok answer ∧ s.firstAnswer r = .ok answer := by
  obtain ⟨byHead, hheads⟩ := exists_marked (·.isPrefixOf r.name.toList) r.heads
  obtain ⟨byTail, htails⟩ := exists_marked (·.isSuffixOf r.name.toList) r.tails
  have hanswer : ∃ answer, s.resolve r.toRequest = .ok answer := by
    simp only [resolve, TextRequest.toRequest, Json.text, bind, Except.bind, hheads, htails]
    exact ⟨_, rfl⟩
  obtain ⟨answer, hanswer⟩ := hanswer
  refine ⟨answer, hanswer, ?_⟩
  rw [firstAnswer, sanitize, hanswer]
  rfl

/-- The first of some requests that has the same key as a request, or else this request. -/
def keeper (asked : List TextRequest) (r : TextRequest) : TextRequest :=
  (asked.find? (·.cacheKey = r.cacheKey)).getD r

/-- The cache holds, for each key, the answer to the first request that had it. -/
def Holds (s : Sanitizer) (asked : List TextRequest) (cache : Cache) : Prop :=
  ∀ key, (cache.lookup key).map Except.ok = (asked.find? (·.cacheKey = key)).map s.firstAnswer

theorem find?_concat (asked : List TextRequest) (r : TextRequest) (key : String) :
    (asked ++ [r]).find? (·.cacheKey = key) =
      (asked.find? (·.cacheKey = key)).or (if r.cacheKey = key then some r else none) := by
  rw [List.find?_append, List.find?_singleton]
  simp

/-- A request is answered as the first one with the same key, and then the cache holds its answer as
well. -/
theorem Holds.sanitize {asked : List TextRequest} {cache : Cache} (h : s.Holds asked cache)
    (r : TextRequest) :
    (s.sanitize r.toRequest cache).1 = s.firstAnswer (keeper asked r) ∧
      s.Holds (asked ++ [r]) (s.sanitize r.toRequest cache).2 := by
  have hkey := h r.cacheKey
  cases hfound : asked.find? (·.cacheKey = r.cacheKey) with
  | some first =>
    rw [hfound] at hkey
    obtain ⟨answer, hlookup, hanswer⟩ := Option.map_eq_some_iff.1 hkey
    have hsanitize : s.sanitize r.toRequest cache = (.ok answer, cache) := by
      rw [Sanitizer.sanitize, show cache.lookup r.toRequest.cacheKey = some answer from hlookup]
    rw [hsanitize, keeper, hfound]
    refine ⟨hanswer, fun key => ?_⟩
    rw [h key, find?_concat]
    by_cases hsame : r.cacheKey = key
    · rw [← hsame, hfound, Option.some_or]
    · rw [if_neg hsame, Option.or_none]
  | none =>
    rw [hfound, Option.map_none, Option.map_eq_none_iff] at hkey
    obtain ⟨answer, hresolve, hfirst⟩ := exists_firstAnswer s r
    have hsanitize : s.sanitize r.toRequest cache =
        (.ok answer, (r.cacheKey, answer) :: cache) := by
      rw [Sanitizer.sanitize, show cache.lookup r.toRequest.cacheKey = none from hkey, hresolve]
      rfl
    rw [hsanitize, keeper, hfound]
    refine ⟨hfirst.symm, fun key => ?_⟩
    rw [find?_concat]
    by_cases hsame : r.cacheKey = key
    · rw [← hsame, List.lookup_cons_self, hfound, if_pos rfl, Option.none_or, Option.map_some,
        Option.map_some, hfirst]
    · rw [if_neg hsame, Option.or_none, lookup_cons_of_ne (Ne.symm hsame), h key]

/-- Each request of a run is answered as the first one of the run with the same key. -/
theorem Holds.answers_eq {asked requests : List TextRequest} {cache : Cache}
    (h : s.Holds asked cache) :
    s.answers requests cache = requests.map fun r =>
      s.firstAnswer (keeper (asked ++ requests) r) := by
  induction requests generalizing asked cache with
  | nil => rfl
  | cons r rest ih =>
    obtain ⟨hanswer, hholds⟩ := h.sanitize r
    have hkeeper : keeper (asked ++ r :: rest) r = keeper asked r := by
      rw [keeper, keeper, List.find?_append]
      cases asked.find? (·.cacheKey = r.cacheKey) with
      | none => simp
      | some first => rfl
    rw [answers, hanswer, ih hholds, List.map_cons, hkeeper, List.append_assoc,
      List.singleton_append]

theorem keeper_spec {requests : List TextRequest} {r : TextRequest} (hr : r ∈ requests) :
    keeper requests r ∈ requests ∧ (keeper requests r).cacheKey = r.cacheKey := by
  rw [keeper]
  cases hfound : requests.find? (·.cacheKey = r.cacheKey) with
  | none =>
    rw [List.find?_eq_none] at hfound
    exact absurd (by simp) (hfound r hr)
  | some first => exact ⟨List.mem_of_find?_eq_some hfound, by simpa using List.find?_some hfound⟩

/-- No two requests of a run that share a key have different answers. -/
theorem answers_eq_iff {requests : List TextRequest} :
    s.answers requests [] = requests.map s.firstAnswer ↔
      ∀ r ∈ requests, ∀ other ∈ requests, r.cacheKey = other.cacheKey →
        s.firstAnswer r = s.firstAnswer other := by
  have hholds : s.Holds [] [] := fun _ => rfl
  rw [hholds.answers_eq, List.nil_append, List.map_inj_left]
  constructor
  · intro h r hr other hother hkey
    have hkeeper : keeper requests r = keeper requests other := by
      rw [keeper, keeper, hkey]
      cases hfound : requests.find? (·.cacheKey = other.cacheKey) with
      | none => exact absurd (by simp) (List.find?_eq_none.1 hfound other hother)
      | some first => rfl
    rw [← h r hr, ← h other hother, hkeeper]
  · intro h r hr
    obtain ⟨hmem, hkey⟩ := keeper_spec hr
    exact h _ hmem r hr hkey

/-- The answers to requests of texts are those of sanitizers without any earlier request exactly if
this is so for each two requests of which one absorbs the other. -/
theorem cache_invisible_iff (s : Sanitizer) (requests : List TextRequest) :
    s.answers requests [] = requests.map s.firstAnswer ↔
      ∀ r ∈ requests, ∀ other ∈ requests, r.Absorbs other →
        s.firstAnswer r = s.firstAnswer other := by
  rw [answers_eq_iff]
  constructor
  · intro h r hr other hother habsorbs
    exact h r hr other hother habsorbs.cacheKey_eq
  · intro h r hr other hother hkey
    obtain rfl | habsorbs | habsorbs := TextRequest.cacheKey_eq_iff.1 hkey
    · rfl
    · exact h r hr other hother habsorbs
    · exact (h other hother r hr habsorbs).symm

/-- A name with a style in it, after a request with a suffix that goes on like it. -/
def entangledRequests : List TextRequest :=
  [{ name := "a", suffix := "b|lowerCamel|_" }, { name := "a|lowerCamel|b" }]

/-- The second request is answered as the first one. -/
theorem entangledRequests_share_entry :
    (Sanitizer.mk [] []).answers entangledRequests [] = [.ok "a", .ok "a"] ∧
      (Sanitizer.mk [] []).firstAnswer { name := "a|lowerCamel|b" } = .ok "a|lowerCamel|b" ∧
      (Sanitizer.mk [] []).answers entangledRequests [] ≠ entangledRequests.map
      (Sanitizer.mk [] []).firstAnswer := by
  decide +kernel

end Sanitizer

end DartRecords.Naming
