import DartRecords.Json.Table
import DartRecords.Proofs.ListRelations
import DartRecords.Proofs.ReadValues

/-!
# Updates of tables

Tables whose keys are all texts are objects: an update of one by another sets the members of the
second object one after another (`update_ofMembers`), and what is new goes last (`merge_of_fresh`).

Of a table with any keys two facts are followed through updates: its keys are distinct and its
values readable (`Table.Readable`), and every entry after an update was there before or has the
value of an entry of the update (`mem_update`).  The entries that a value stands for are parts of it
(`mem_entriesOf`), so they are readable if the value is, and less deep.
-/

namespace DartRecords

namespace Json

/-! ## Objects -/

/-- Sets the members of a second object one after another. -/
def merge (base extra : Members) : Members :=
  extra.foldl (fun members m => Json.insert m.1 m.2 members) base

theorem mem_merge {base extra : Members} {m : String × Json} (h : m ∈ merge base extra) :
    m ∈ base ∨ m ∈ extra := by
  induction extra generalizing base with
  | nil => exact .inl h
  | cons other extra ih =>
    obtain h | h := ih h
    · obtain rfl | h := mem_insert h
      · exact .inr List.mem_cons_self
      · exact .inl h
    · exact .inr (List.mem_cons_of_mem _ h)

theorem readable_merge {base extra : Members} (hbase : Readable (.obj base))
    (hextra : Readable (.obj extra)) :
    Readable (.obj (merge base extra)) := by
  have hall : ∀ m ∈ extra, Readable m.2 := by
    cases hextra with
    | obj _ hall => exact hall
  clear hextra
  induction extra generalizing base with
  | nil => exact hbase
  | cons m extra ih =>
    obtain ⟨hm, hall⟩ := List.forall_mem_cons.1 hall
    exact ih (readable_insert hbase hm) hall

/-- Members with new names go last. -/
theorem merge_of_fresh {base extra : Members} (h : ((base ++ extra).map Prod.fst).Nodup) :
    merge base extra = base ++ extra := by
  induction extra generalizing base with
  | nil => exact (List.append_nil base).symm
  | cons m extra ih =>
    have hassoc : base ++ m :: extra = (base ++ [m]) ++ extra := by
      rw [List.append_assoc, List.singleton_append]
    have hfresh : m.1 ∉ base.map Prod.fst := fun hmem => by
      rw [List.map_append, List.map_cons] at h
      exact List.disjoint_of_nodup_append h hmem List.mem_cons_self
    have hinsert : Json.insert m.1 m.2 base = base ++ [m] := insert_of_not_mem hfresh m.2
    rw [hassoc] at h ⊢
    rw [← ih h, ← hinsert]
    rfl

/-- The items of a value are texts, unless they are the items of a list. -/
theorem mem_items {v item : Json} {items : List Json} (h : v.items = .ok items)
    (hitem : item ∈ items) :
    (∃ s, item = .str s) ∨ ∃ others, v = .arr others ∧ item ∈ others := by
  cases v with
  | arr others =>
    cases h
    exact .inr ⟨_, rfl, hitem⟩
  | str s =>
    cases h
    obtain ⟨c, -, rfl⟩ := List.mem_map.1 hitem
    exact .inl ⟨_, rfl⟩
  | obj members =>
    cases h
    obtain ⟨m, -, rfl⟩ := List.mem_map.1 hitem
    exact .inl ⟨_, rfl⟩
  | _ => cases h

theorem sameKey_str {key : Json} {s : String} : key.sameKey (.str s) = true ↔ key = .str s := by
  cases key with
  | str t => simp [sameKey, sameScalar]
  | real x => cases x <;> simp [sameKey, sameScalar, sameNumber]
  | _ => simp [sameKey, sameScalar, sameNumber]

end Json

namespace Table

open Json (Members merge)

/-! ## Tables of members -/

theorem insert_ofMembers (key : String) (v : Json) (members : Members) :
    insert (.str key) v (ofMembers members) = ofMembers (Json.insert key v members) := by
  induction members with
  | nil => rfl
  | cons m members ih =>
    obtain ⟨k, w⟩ := m
    have hcons : ofMembers ((k, w) :: members) = (.str k, w) :: ofMembers members := rfl
    rw [hcons, insert, Json.insert]
    by_cases hk : k = key
    · rw [if_pos hk, if_pos (Json.sameKey_str.2 (congrArg Json.str hk)), hk]
      rfl
    · rw [if_neg hk, if_neg (fun h => hk (Json.str.inj (Json.sameKey_str.1 h))), ih]
      rfl

theorem update_ofMembers (base extra : Members) :
    (ofMembers base).update (ofMembers extra) = ofMembers (merge base extra) := by
  induction extra generalizing base with
  | nil => rfl
  | cons m extra ih =>
    have hstep : (ofMembers base).update (ofMembers (m :: extra)) =
        (insert (.str m.1) m.2 (ofMembers base)).update (ofMembers extra) := rfl
    rw [hstep, insert_ofMembers, ih]
    rfl

theorem toMembers_ofMembers (members : Members) : toMembers (ofMembers members) = members := by
  rw [toMembers, ofMembers, List.map_map]
  exact List.map_id members

theorem mem_ofMembers {members : Members} {entry : Json × Json} :
    entry ∈ ofMembers members ↔ ∃ m ∈ members, entry = (.str m.1, m.2) := by
  simp only [ofMembers, List.mem_map, eq_comm]

/-! ## Entries of an update -/

theorem mem_insert {key v : Json} {t : Table} {entry : Json × Json} (h : entry ∈ insert key v t) :
    entry ∈ t ∨ entry.2 = v ∧ (entry.1 = key ∨ entry.1.sameKey key = true) := by
  induction t with
  | nil =>
    rw [List.mem_singleton.1 h]
    exact .inr ⟨rfl, .inl rfl⟩
  | cons other t ih =>
    obtain ⟨k, w⟩ := other
    rw [insert] at h
    split at h
    · next hsame =>
      obtain rfl | h := List.mem_cons.1 h
      · exact .inr ⟨rfl, .inr hsame⟩
      · exact .inl (List.mem_cons_of_mem _ h)
    · obtain rfl | h := List.mem_cons.1 h
      · exact .inl List.mem_cons_self
      · exact (ih h).imp_left (List.mem_cons_of_mem _)

/-- An entry after an update was there before, or it has the value of an entry of the update. -/
theorem mem_update {t entries : Table} {entry : Json × Json} (h : entry ∈ t.update entries) :
    entry ∈ t ∨ ∃ e ∈ entries, entry.2 = e.2 ∧ (entry.1 = e.1 ∨ entry.1.sameKey e.1 = true) := by
  induction entries generalizing t with
  | nil => exact .inl h
  | cons e entries ih =>
    obtain h | ⟨e', he', hentry⟩ := ih h
    · obtain h | hentry := mem_insert h
      · exact .inl h
      · exact .inr ⟨e, List.mem_cons_self, hentry⟩
    · exact .inr ⟨e', List.mem_cons_of_mem _ he', hentry⟩

/-- The keys stay, or a new one goes last. -/
theorem map_fst_insert (key v : Json) (t : Table) :
    (insert key v t).map Prod.fst = t.map Prod.fst ∨
      (insert key v t).map Prod.fst = t.map Prod.fst ++ [key] ∧
      ∀ k ∈ t.map Prod.fst, k.sameKey key = false := by
  induction t with
  | nil => exact .inr ⟨rfl, fun _ h => absurd h List.not_mem_nil⟩
  | cons e t ih =>
    obtain ⟨k, w⟩ := e
    rw [insert]
    split
    · exact .inl rfl
    · next hsame =>
      rw [List.map_cons, List.map_cons]
      obtain ih | ⟨ih, hfresh⟩ := ih
      · exact .inl (by rw [ih])
      · exact .inr ⟨by rw [ih, List.cons_append],
          List.forall_mem_cons.2 ⟨Bool.eq_false_of_not_eq_true hsame, hfresh⟩⟩

/-- A table with distinct keys and readable values. -/
structure Readable (t : Table) : Prop where
  distinct : (t.map Prod.fst).Pairwise fun key key' => key.sameKey key' = false
  values : ∀ e ∈ t, e.2.Readable

theorem readable_nil : Readable [] := ⟨.nil, fun _ h => absurd h List.not_mem_nil⟩

theorem Readable.insert {t : Table} (h : t.Readable) (key : Json) {v : Json} (hv : v.Readable) :
    (Table.insert key v t).Readable := by
  refine ⟨?_, fun e he => ?_⟩
  · obtain hkeys | ⟨hkeys, hfresh⟩ := map_fst_insert key v t
    · exact hkeys ▸ h.distinct
    · rw [hkeys]
      refine List.pairwise_append.2 ⟨h.distinct, List.pairwise_singleton _ _, fun k hk k' hk' => ?_⟩
      exact List.mem_singleton.1 hk' ▸ hfresh k hk
  · obtain he | ⟨he, -⟩ := mem_insert he
    · exact h.values e he
    · exact he ▸ hv

theorem Readable.update {t entries : Table} (h : t.Readable)
    (hentries : ∀ e ∈ entries, e.2.Readable) :
    (t.update entries).Readable := by
  induction entries generalizing t with
  | nil => exact h
  | cons e entries ih =>
    obtain ⟨he, hentries⟩ := List.forall_mem_cons.1 hentries
    exact ih (h.insert e.1 he) hentries

theorem readable_ofMembers {members : Members} :
    Readable (ofMembers members) ↔ (Json.obj members).Readable := by
  have hkeys :
      ((ofMembers members).map Prod.fst).Pairwise (fun key key' => key.sameKey key' = false) ↔
      (members.map Prod.fst).Nodup := by
    have hstr : ∀ s s' : String, (Json.str s).sameKey (.str s') = false ↔ s ≠ s' := fun s s' => by
      rw [← Bool.not_eq_true, Json.sameKey_str, Json.str.injEq]
    rw [ofMembers, List.map_map, List.Nodup, List.pairwise_map, List.pairwise_map]
    exact List.Pairwise.iff fun {m m' : String × Json} => hstr m.1 m'.1
  constructor
  · intro h
    exact .obj (hkeys.1 h.distinct) fun m hm => h.values _ (mem_ofMembers.2 ⟨m, hm, rfl⟩)
  · intro h
    cases h with
    | obj hnodup hall =>
      refine ⟨hkeys.2 hnodup, fun e he => ?_⟩
      obtain ⟨m, hm, rfl⟩ := mem_ofMembers.1 he
      exact hall m hm

/-! ## The entries that a value stands for -/

theorem entryOf_eq_ok {index : ℕ} {item : Json} {entry : Json × Json}
    (h : entryOf index item = .ok entry) :
    ∃ parts, item.items = .ok parts ∧ entry.2 ∈ parts ∧ parts.length = 2 := by
  rw [entryOf] at h
  split at h
  · cases h
  · next key v hparts =>
    split at h
    · cases h
      exact ⟨_, hparts, by simp, rfl⟩
    · cases h
  · cases h

theorem mem_entriesFrom {index : ℕ} {items : List Json} {entries : Table}
    (h : entriesFrom index items = .ok entries) {entry : Json × Json} (hentry : entry ∈ entries) :
    ∃ item ∈ items, ∃ parts, item.items = .ok parts ∧ entry.2 ∈ parts ∧ parts.length = 2 := by
  induction items generalizing index entries with
  | nil =>
    cases h
    exact absurd hentry List.not_mem_nil
  | cons item items ih =>
    rw [entriesFrom] at h
    obtain ⟨first, hfirst, h⟩ := bind_eq_ok h
    obtain ⟨more, hmore, h⟩ := bind_eq_ok h
    cases h
    obtain rfl | hentry := List.mem_cons.1 hentry
    · exact ⟨item, List.mem_cons_self, entryOf_eq_ok hfirst⟩
    · obtain ⟨other, hother, hparts⟩ := ih hmore hentry
      exact ⟨other, List.mem_cons_of_mem _ hother, hparts⟩

/-- The value of an entry that a value stands for is a member of an object, or a part of an item of
a list. -/
theorem mem_entriesOf {v : Json} {entries : Table} (h : entriesOf v = .ok entries)
    {entry : Json × Json} (hentry : entry ∈ entries) :
    (∃ members, v = .obj members ∧ ∃ m ∈ members, m.2 = entry.2) ∨
      ∃ items, v = .arr items ∧ ∃ item ∈ items, ∃ parts, item.items = .ok parts ∧
      entry.2 ∈ parts := by
  rw [entriesOf.eq_def] at h
  split at h
  · next members =>
    cases h
    obtain ⟨m, hm, rfl⟩ := mem_ofMembers.1 hentry
    exact .inl ⟨members, rfl, m, hm, rfl⟩
  · next hobj =>
    obtain ⟨items, hitems, h⟩ := bind_eq_ok h
    obtain ⟨item, hitem, parts, hparts, hpart, hlength⟩ := mem_entriesFrom h hentry
    cases v with
    | arr others =>
      cases hitems
      exact .inr ⟨_, rfl, item, hitem, parts, hparts, hpart⟩
    | str s =>
      -- A single character has one part, not two
      cases hitems
      obtain ⟨c, -, rfl⟩ := List.mem_map.1 hitem
      cases hparts
      simp at hlength
    | obj members => exact absurd rfl (hobj members)
    | _ => cases hitems

theorem readable_of_mem_entriesOf {v : Json} (hv : v.Readable) {entries : Table}
    (h : entriesOf v = .ok entries) {entry : Json × Json} (hentry : entry ∈ entries) :
    entry.2.Readable := by
  obtain ⟨members, rfl, m, hm, hvalue⟩ | ⟨items, rfl, item, hitem, parts, hparts, hpart⟩ :=
    mem_entriesOf h hentry
  · cases hv with
    | obj _ hall => exact hvalue ▸ hall m hm
  · cases hv with
    | arr hall =>
      obtain ⟨s, hs⟩ | ⟨others, rfl, hother⟩ := Json.mem_items hparts hpart
      · exact hs ▸ .str s
      · cases hall _ hitem with
        | arr hall => exact hall _ hother

/-- The entries that a value stands for are less deep than the value. -/
theorem depth_lt_of_mem_entriesOf {v : Json} {entries : Table} (h : entriesOf v = .ok entries)
    {entry : Json × Json} (hentry : entry ∈ entries) : entry.2.depth < v.depth := by
  obtain ⟨members, rfl, m, hm, hvalue⟩ | ⟨items, rfl, item, hitem, parts, hparts, hpart⟩ :=
    mem_entriesOf h hentry
  · exact hvalue ▸ Json.height_lt_of_mem_members hm
  · have hitems : item.depth < (Json.arr items).depth := Json.height_lt_of_mem_items hitem
    obtain ⟨s, hs⟩ | ⟨others, rfl, hother⟩ := Json.mem_items hparts hpart
    · rw [hs]
      exact lt_of_le_of_lt (Json.depth_pos item) hitems
    · exact (Json.height_lt_of_mem_items hother).trans hitems

end Table

end DartRecords
