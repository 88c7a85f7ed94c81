import DartRecords.Config.Store
import DartRecords.Proofs.StoredTexts
import DartRecords.Proofs.TableUpdates

/-!
# Saved configurations

Saving writes all settings of a configuration into one object, the custom ones among them, and
loading tells them apart by their names.  `reload_saved_iff` says when that gives the configuration
back: exactly if no custom setting has the name of a field, and the limits allow for saving and
loading it.

A custom setting with the name of a field is lost: it is read as that field.  If its name is
`custom`, then it could come back only as an entry of itself, and the entries of a value are less
deep than the value (`mem_custom_cases`).
-/

namespace DartRecords

open Json (Members merge)

namespace Json

/-! ## Digits -/

theorem itemsFewDigits_of_forall {items : List Json} (h : ∀ v ∈ items, v.fewDigits = true) :
    itemsFewDigits items = true := by
  induction items with
  | nil => rfl
  | cons v items ih =>
    obtain ⟨hv, hitems⟩ := List.forall_mem_cons.1 h
    rw [itemsFewDigits, hv, ih hitems, Bool.and_self]

theorem membersFewDigits_of_forall {members : Members} (h : ∀ m ∈ members, m.2.fewDigits = true) :
    membersFewDigits members = true := by
  induction members with
  | nil => rfl
  | cons m members ih =>
    obtain ⟨hm, hmembers⟩ := List.forall_mem_cons.1 h
    rw [membersFewDigits, hm, ih hmembers, Bool.and_self]

theorem fewDigits_of_readable {v : Json} (h : v.Readable) : v.fewDigits = true := by
  induction h with
  | int hn =>
    rw [fewDigits]
    exact decide_eq_true hn
  | arr _ ih => exact itemsFewDigits_of_forall ih
  | obj _ _ ih => exact membersFewDigits_of_forall ih
  | _ => rfl

theorem checkDigits_of_readable {v : Json} (hv : v.Readable) : v.checkDigits = .ok () := by
  rw [checkDigits, fewDigits_of_readable hv, if_pos rfl]

end Json

/-- Custom settings that can be read. -/
def CustomSettings.Readable : CustomSettings → Prop
  | .table entries => entries.Readable
  | .loose v => v.Readable

namespace CustomSettings

theorem readable_ofJson {v : Json} (hv : v.Readable) : (ofJson v).Readable := by
  cases v with
  | obj members => exact Table.readable_ofMembers.2 hv
  | _ => exact hv

theorem Readable.entries {custom : CustomSettings} (h : custom.Readable) {entries : Table}
    (hentries : custom.entries = .ok entries) : entries.Readable := by
  cases custom with
  | table t =>
    cases hentries
    exact h
  | loose v =>
    obtain ⟨parts, hparts, hentries⟩ := bind_eq_ok hentries
    cases hentries
    exact Table.readable_nil.update fun e he => Table.readable_of_mem_entriesOf h hparts he

/-- The entries of custom settings are less deep than the value that gave them. -/
theorem depth_lt_of_mem_entries {v : Json} {entries : Table} (h : (ofJson v).entries = .ok entries)
    {entry : Json × Json} (hentry : entry ∈ entries) : entry.2.depth < v.depth := by
  rw [ofJson.eq_def] at h
  split at h
  · next members =>
    cases h
    exact Table.depth_lt_of_mem_entriesOf (show Table.entriesOf (.obj members) = .ok _
      from rfl) hentry
  · obtain ⟨parts, hparts, h⟩ := bind_eq_ok h
    cases h
    obtain hnil | ⟨e, he, hvalue, -⟩ := Table.mem_update hentry
    · exact absurd hnil List.not_mem_nil
    · exact hvalue ▸ Table.depth_lt_of_mem_entriesOf hparts he

end CustomSettings

namespace Config

/-! ## Fields -/

/-- The names of the fields of a configuration. -/
def fieldNames : List String :=
  ["output_dir", "indent_size", "use_tabs", "line_ending", "add_banner", "emit_constants",
    "client_package", "custom"]

/-- The key is the name of a field. -/
def IsField (key : Json) : Prop := ∃ name ∈ fieldNames, key = .str name

theorem isField_str {name : String} : IsField (.str name) ↔ name ∈ fieldNames := by
  simp [IsField]

/-- What a change of one setting may change. -/
structure Sets (config : Config) (name : String) (v : Json) (config' : Config) : Prop where
  settings : ∀ m ∈ config'.settings, m ∈ config.settings ∨ m.2 = v
  custom : config'.custom = config.custom ∨ name = "custom" ∧ config'.custom = .ofJson v

theorem set?_cases (config : Config) (name : String) (v : Json) :
    name ∉ fieldNames ∧ config.set? name v = none ∨
      name ∈ fieldNames ∧ ∃ config', config.set? name v = some config' ∧
      Sets config name v config' := by
  by_cases hname : name ∈ fieldNames
  · refine .inr ⟨hname, ?_⟩
    simp only [fieldNames, List.mem_cons, List.not_mem_nil, or_false] at hname
    obtain rfl | rfl | rfl | rfl | rfl | rfl | rfl | rfl := hname
    case inr.inr.inr.inr.inr.inr.inr => exact ⟨_, rfl, fun m hm => .inl hm, .inr ⟨rfl, rfl⟩⟩
    all_goals
      refine ⟨_, rfl, fun m hm => ?_, .inl rfl⟩
      simp only [Config.settings, List.mem_cons, List.not_mem_nil, or_false] at hm ⊢
      grind
  · refine .inl ⟨hname, ?_⟩
    simp only [fieldNames, List.mem_cons, List.not_mem_nil, or_false, not_or] at hname
    rw [set?.eq_def]
    split
    all_goals first | rfl | simp at hname

section Run

variable (config : Config) (v : Json) (rest : Table)

theorem setAll_cons_of_set? {config' : Config} {name : String}
    (h : config.set? name v = some config') :
    config.setAll ((.str name, v) :: rest) = config'.setAll rest := by
  rw [setAll]
  dsimp only
  rw [h]

theorem setAll_cons_of_not_isField {key : Json} (h : ¬IsField key) :
    config.setAll ((key, v) :: rest) =
      ((config.setAll rest).1, (key, v) :: (config.setAll rest).2) := by
  cases key with
  | str name =>
    obtain ⟨-, hnone⟩ | ⟨hname, -⟩ := set?_cases config name v
    · rw [setAll, hnone]
    · exact absurd (isField_str.2 hname) h
  | _ => rfl

end Run

/-- What a run of changes may change, and which entries it leaves over. -/
structure SetsAll (config : Config) (t : Table) (result : Config × Table) : Prop where
  settings : ∀ m ∈ result.1.settings, m ∈ config.settings ∨ ∃ e ∈ t, m.2 = e.2
  custom : result.1.custom = config.custom ∨ ∃ w, (.str "custom", w) ∈ t ∧
    result.1.custom = .ofJson w
  others : ∀ e ∈ result.2, e ∈ t ∧ ¬IsField e.1

theorem setsAll_setAll (config : Config) (t : Table) : SetsAll config t (config.setAll t) := by
  induction t generalizing config with
  | nil => exact ⟨fun m hm => .inl hm, .inl rfl, fun e he => absurd he List.not_mem_nil⟩
  | cons entry t ih =>
    obtain ⟨key, v⟩ := entry
    by_cases hkey : IsField key
    · obtain ⟨name, hname, rfl⟩ := hkey
      obtain ⟨hunknown, -⟩ | ⟨-, config', hset, hsets⟩ := set?_cases config name v
      · exact absurd hname hunknown
      · rw [setAll_cons_of_set? config v t hset]
        have hrest := ih config'
        refine ⟨fun m hm => ?_, ?_, fun e he => ?_⟩
        · obtain hm | ⟨e, he, hvalue⟩ := hrest.settings m hm
          · exact (hsets.settings m hm).imp_right fun hvalue => ⟨_, List.mem_cons_self, hvalue⟩
          · exact .inr ⟨e, List.mem_cons_of_mem _ he, hvalue⟩
        · obtain hcustom | ⟨w, hw, hcustom⟩ := hrest.custom
          · rw [hcustom]
            exact hsets.custom.imp_right fun ⟨hcustom, hvalue⟩ =>
              ⟨v, hcustom ▸ List.mem_cons_self, hvalue⟩
          · exact .inr ⟨w, List.mem_cons_of_mem _ hw, hcustom⟩
        · exact (hrest.others e he).imp_left (List.mem_cons_of_mem _)
    · rw [setAll_cons_of_not_isField config v t hkey]
      have hrest := ih config
      refine ⟨fun m hm => ?_, ?_, fun e he => ?_⟩
      · exact (hrest.settings m hm).imp_right fun ⟨e, he, hvalue⟩ =>
          ⟨e, List.mem_cons_of_mem _ he, hvalue⟩
      · exact hrest.custom.imp_right fun ⟨w, hw, hcustom⟩ => ⟨w, List.mem_cons_of_mem _ hw, hcustom⟩
      · obtain rfl | he := List.mem_cons.1 he
        · exact ⟨List.mem_cons_self, hkey⟩
        · exact (hrest.others e he).imp_left (List.mem_cons_of_mem _)

/-- The configuration of a table keeps what the run of changes gives, or adds the entries that are
left over. -/
theorem ofTable_eq_ok {t : Table} {config : Config} (h : ofTable t = .ok config) :
    config = (setAll {} t).1 ∨
      ∃ custom, (setAll {} t).1.custom.entries = .ok custom ∧
        config = { (setAll {} t).1 with custom := .table (custom.update (setAll {} t).2) } := by
  rw [ofTable] at h
  split at h
  next changed others hset =>
  rw [hset]
  split at h
  · cases h
    exact .inl rfl
  · obtain ⟨custom, hcustom, h⟩ := bind_eq_ok h
    cases h
    exact .inr ⟨custom, hcustom, rfl⟩

/-- A custom setting is an entry that names no field, or an entry of the setting for all of them. -/
theorem mem_custom_cases {t entries : Table} {config : Config} (h : ofTable t = .ok config)
    (hcustom : config.custom = .table entries) {entry : Json × Json} (hentry : entry ∈ entries) :
    (∃ w, (.str "custom", w) ∈ t ∧ entry.2.depth < w.depth) ∨
      ∃ e ∈ t, ¬IsField e.1 ∧ (entry.1 = e.1 ∨ entry.1.sameKey e.1 = true) := by
  have hsets := setsAll_setAll {} t
  have hgiven : ∀ {given : Table}, (setAll {} t).1.custom.entries = .ok given → entry ∈ given →
      ∃ w, (.str "custom", w) ∈ t ∧ entry.2.depth < w.depth := by
    intro given hgiven hentry
    obtain hdefault | ⟨w, hw, hgives⟩ := hsets.custom
    · rw [hdefault] at hgiven
      cases hgiven
      exact absurd hentry List.not_mem_nil
    · rw [hgives] at hgiven
      exact ⟨w, hw, CustomSettings.depth_lt_of_mem_entries hgiven hentry⟩
  obtain rfl | ⟨given, hentries, rfl⟩ := ofTable_eq_ok h
  · exact .inl (hgiven (by rw [hcustom]; rfl) hentry)
  · cases hcustom
    obtain hentry | ⟨e, he, -, hkey⟩ := Table.mem_update hentry
    · exact .inl (hgiven hentries hentry)
    · exact .inr ⟨e, (hsets.others e he).1, (hsets.others e he).2, hkey⟩

/-! ## Readable configurations -/

/-- A configuration whose settings can all be read. -/
structure Readable (config : Config) : Prop where
  settings : (Json.obj config.settings).Readable
  custom : config.custom.Readable

theorem lt_pow_of_lt_ten {n digits : ℕ} (hdigits : digits ≠ 0) (hn : n < 10) :
    n < Nat.pow 10 digits :=
  lt_of_lt_of_le hn (Nat.le_self_pow hdigits 10)

theorem readable_digit {n : ℤ} (hn : n.natAbs < 10) : (Json.int n).Readable :=
  .int (lt_pow_of_lt_ten (by decide) hn)

theorem readable_default : ∀ m ∈ ({} : Config).settings, m.2.Readable := by
  simp only [settings, List.forall_mem_cons, List.not_mem_nil, false_implies,
    implies_true, and_true]
  exact ⟨.null, readable_digit (by decide), .bool false, .str "\n", .bool true, .bool true,
    .str "soia"⟩

theorem map_fst_settings (config : Config) : config.settings.map Prod.fst =
    ["output_dir", "indent_size", "use_tabs", "line_ending", "add_banner", "emit_constants",
      "client_package"] := rfl

theorem nodup_settings (config : Config) : (config.settings.map Prod.fst).Nodup := by
  rw [map_fst_settings]
  decide

theorem mem_fieldNames_of_mem_settings (config : Config) :
    ∀ name ∈ config.settings.map Prod.fst, name ∈ fieldNames := by
  rw [map_fst_settings]
  decide

theorem readable_of_ofTable {members : Members} (hmembers : (Json.obj members).Readable)
    {config : Config} (h : ofTable (Table.ofMembers members) = .ok config) : config.Readable := by
  have hvalues := (Table.readable_ofMembers.2 hmembers).values
  have hsets := setsAll_setAll {} (Table.ofMembers members)
  have hsettings : ∀ m ∈ (setAll {} (Table.ofMembers members)).1.settings, m.2.Readable := by
    intro m hm
    obtain hm | ⟨e, he, hvalue⟩ := hsets.settings m hm
    · exact readable_default m hm
    · exact hvalue ▸ hvalues e he
  have hcustom : (setAll {} (Table.ofMembers members)).1.custom.Readable := by
    obtain hdefault | ⟨w, hw, hgives⟩ := hsets.custom
    · exact hdefault ▸ Table.readable_nil
    · exact hgives ▸ CustomSettings.readable_ofJson (hvalues _ hw)
  obtain rfl | ⟨given, hentries, rfl⟩ := ofTable_eq_ok h
  · exact ⟨.obj (nodup_settings _) hsettings, hcustom⟩
  · exact ⟨.obj (nodup_settings _) hsettings,
      (hcustom.entries hentries).update fun e he => hvalues e (hsets.others e he).1⟩

/-! ## Loading -/

theorem languageDefaults_eq_ok {language : Json} {defaults : Table}
    (h : languageDefaults language = .ok defaults) :
    ∃ d, defaults = Table.ofMembers d ∧ (d = [] ∨ d = dartDefaults) := by
  unfold languageDefaults at h
  split at h
  · cases h
  · split at h
    · cases h
      exact ⟨dartDefaults, rfl, .inr rfl⟩
    · cases h
      exact ⟨[], rfl, .inl rfl⟩

theorem readable_dartDefaults : (Json.obj dartDefaults).Readable := by
  refine .obj (by decide) ?_
  simp only [dartDefaults, List.forall_mem_cons, List.not_mem_nil, false_implies,
    implies_true, and_true]
  exact ⟨readable_digit (by decide), .bool false, .bool true, .bool true, .str "soia"⟩

theorem directEntries_eq_ok {settings : Json}
    (hsettings : settings = .null ∨ ∃ direct, settings = .obj direct)
    (hreadable : settings.Readable) {entries : Table} (h : directEntries settings = .ok entries) :
    ∃ members, entries = Table.ofMembers members ∧ (Json.obj members).Readable := by
  obtain rfl | ⟨direct, rfl⟩ := hsettings
  · cases h
    exact ⟨[], rfl, Json.readable_obj_nil⟩
  · rw [directEntries] at h
    split at h
    · cases h
      exact ⟨direct, rfl, hreadable⟩
    · cases h
      exact ⟨[], rfl, Json.readable_obj_nil⟩

section Loading

variable [Limits] [Json.LoneHalves]

theorem readable_of_readJson {fs : FileSystem} {p : Path} {v : Json} (h : fs.readJson p = .ok v) :
    v.Readable := by
  rw [FileSystem.readJson] at h
  split at h
  · cases h
  split at h
  · cases h
  · exact (Json.readableWithin_of_parseChars (parseDocument_eq_ok_iff.1 h)).readable

theorem fileEntries_eq_ok {fs : FileSystem} {file : Json} {entries : Table}
    (h : fileEntries fs file = .ok entries) :
    ∃ members, entries = Table.ofMembers members ∧ (Json.obj members).Readable := by
  unfold fileEntries at h
  split at h
  · cases h
    exact ⟨[], rfl, Json.readable_obj_nil⟩
  split at h
  · obtain ⟨members, hmembers, h⟩ := bind_eq_ok h
    cases h
    refine ⟨members, rfl, ?_⟩
    rw [readFile] at hmembers
    split at hmembers
    · cases hmembers
    · cases hmembers
    · rw [readExisting] at hmembers
      split at hmembers
      · cases hmembers
      · split at hmembers
        · next hread =>
          cases hmembers
          exact readable_of_readJson hread
        all_goals cases hmembers
  · cases h

/-- A configuration that was loaded is that of one readable object, and its language has
defaults. -/
theorem load_eq_ok {fs : FileSystem} {language settings file : Json} {config : Config}
    (hsettings : settings = .null ∨ ∃ direct, settings = .obj direct)
    (hreadable : settings.Readable) (h : load fs language settings file = .ok config) :
    (∃ d, languageDefaults language = .ok (Table.ofMembers d) ∧ (d = [] ∨ d = dartDefaults)) ∧
    config.Readable := by
  obtain ⟨defaults, hdefaults, h⟩ := bind_eq_ok h
  obtain ⟨fromFile, hfile, h⟩ := bind_eq_ok h
  obtain ⟨direct, hdirect, h⟩ := bind_eq_ok h
  obtain ⟨d, rfl, hd⟩ := languageDefaults_eq_ok hdefaults
  obtain ⟨f, rfl, hf⟩ := fileEntries_eq_ok hfile
  obtain ⟨s, rfl, hs⟩ := directEntries_eq_ok hsettings hreadable hdirect
  refine ⟨⟨d, hdefaults, hd⟩, ?_⟩
  have hdefault : (Json.obj d).Readable := by
    obtain rfl | rfl := hd
    · exact Json.readable_obj_nil
    · exact readable_dartDefaults
  rw [Table.update_ofMembers, Table.update_ofMembers] at h
  exact readable_of_ofTable (Json.readable_merge (Json.readable_merge hdefault hf) hs)
    (mapError_eq_ok_iff.1 h)

end Loading

/-! ## Saving -/

theorem checkCopied_eq_ok_iff [Limits] {config : Config} :
    config.checkCopied = .ok () ↔ Limits.copies config.toJson = true := by
  rw [checkCopied]
  split
  · next hcopied => exact iff_of_true rfl hcopied
  · next hcopied => exact iff_of_false (fun h => by cases h) hcopied

section Saving

variable {config : Config} {members : Members}
    (hcustom : config.custom = .table (Table.ofMembers members))

include hcustom

theorem readable_saved (hreadable : config.Readable) :
    (Json.obj (merge config.settings members)).Readable := by
  have hmembers := hreadable.custom
  rw [hcustom] at hmembers
  exact Json.readable_merge hreadable.settings (Table.readable_ofMembers.1 hmembers)

/-- Saving copies the configuration, and writes the settings and the custom settings as one
object. -/
theorem save_eq_ok_iff [Limits] (hreadable : config.Readable) {disk saved : FileSystem} {p : Path} :
    save disk config p = .ok saved ↔ Limits.copies config.toJson = true ∧
      disk.write p (Json.obj (merge config.settings members)).toIndented = .ok saved := by
  have htable : config.toTable = .ok (Table.ofMembers (merge config.settings members)) := by
    rw [toTable, hcustom, ← Table.update_ofMembers]
    rfl
  have hdigits : (Json.obj (merge config.settings members)).checkDigits = .ok () :=
    Json.checkDigits_of_readable (readable_saved hcustom hreadable)
  rw [save, htable, bind_eq_ok_iff, ← checkCopied_eq_ok_iff]
  constructor
  · rintro ⟨⟨⟩, hcopied, h⟩
    obtain ⟨_, hsame, h⟩ := bind_eq_ok_iff.1 h
    cases hsame
    rw [Table.toMembers_ofMembers] at h
    dsimp only at h
    refine ⟨mapError_eq_ok_iff.1 hcopied, ?_⟩
    split at h
    · next hwrite =>
      rw [hdigits] at h
      cases h
      exact hwrite
    · cases h
    · cases h
  · rintro ⟨hcopied, hwrite⟩
    refine ⟨(), mapError_eq_ok_iff.2 hcopied, bind_eq_ok_iff.2 ⟨_, rfl, ?_⟩⟩
    rw [Table.toMembers_ofMembers]
    dsimp only
    rw [hwrite, hdigits]
    rfl

end Saving

section Written

variable [Limits] [Json.LoneHalves] {disk saved : FileSystem} {path : String} {members : Members}
  (hextension : Text.lower (Path.ofString path).extension.toList = ".json".toList)
  (hreadable : (Json.obj members).Readable)
  (hwrite : disk.write (Path.ofString path) (Json.obj members).toIndented = .ok saved)

include hextension hreadable hwrite

/-- A file that was saved is read exactly if the limits allow for what was saved. -/
theorem fileEntries_written_eq_ok_iff {entries : Table} :
    fileEntries saved (.str path) = .ok entries ↔
      entries = Table.ofMembers members ∧ (Json.obj members).nesting ≤ Limits.nesting := by
  have hpath : (Json.str path).truthy = true := by
    by_contra hempty
    have hnil : path = "" := by simpa [Json.truthy] using hempty
    subst hnil
    exact absurd hextension (by decide)
  have hread : ∀ found, readFile saved (Path.ofString path) = .ok found ↔
      found = members ∧ (Json.obj members).nesting ≤ Limits.nesting := by
    intro found
    have hjson := FileSystem.readJson_write_eq_ok_iff hreadable hwrite (w := .obj found)
    rw [Json.obj.injEq] at hjson
    rw [readFile, FileSystem.contains_write hwrite]
    dsimp only
    rw [readExisting, if_neg (by simp [hextension]), ← hjson]
    split
    · next hread => simp [hread]
    · next hother hread =>
      rw [hread]
      refine iff_of_false (by simp) fun h => hother found (Except.ok.inj h)
    all_goals
      next hread => simp [hread]
  rw [fileEntries, hpath]
  change (readFile saved (Path.ofString path) >>= fun members =>
    .ok (Table.ofMembers members)) = _ ↔ _
  rw [bind_eq_ok_iff]
  simp only [hread]
  constructor
  · rintro ⟨found, ⟨rfl, hnesting⟩, h⟩
    cases h
    exact ⟨rfl, hnesting⟩
  · rintro ⟨rfl, hnesting⟩
    exact ⟨members, ⟨rfl, hnesting⟩, rfl⟩

/-- A file that was saved is loaded over the defaults of the language, if the limits allow for
it. -/
theorem load_written_eq_ok_iff {d : Members} {language : Json} {config : Config}
    (hdefaults : languageDefaults language = .ok (Table.ofMembers d)) :
    load saved language .null (.str path) = .ok config ↔
      (Json.obj members).nesting ≤ Limits.nesting ∧
        ofTable (Table.ofMembers (merge d members)) = .ok config := by
  have hentries := @fileEntries_written_eq_ok_iff _ _ _ _ _ _ hextension hreadable hwrite
  rw [load, hdefaults]
  change (fileEntries saved (.str path) >>= fun fromFile =>
    ofValue (ofTable ((Table.ofMembers d).update fromFile))) = _ ↔ _
  rw [bind_eq_ok_iff]
  simp only [hentries, ofValue, mapError_eq_ok_iff]
  constructor
  · rintro ⟨entries, ⟨rfl, hnesting⟩, h⟩
    rw [Table.update_ofMembers] at h
    exact ⟨hnesting, h⟩
  · rintro ⟨hnesting, h⟩
    refine ⟨_, ⟨rfl, hnesting⟩, ?_⟩
    rw [Table.update_ofMembers]
    exact h

end Written

/-! ## Fields and custom settings apart -/

section Apart

variable {config : Config} {members : Members}

theorem setAll_of_not_isField (hmembers : ∀ m ∈ members, m.1 ∉ fieldNames) :
    config.setAll (Table.ofMembers members) = (config, Table.ofMembers members) := by
  induction members with
  | nil => rfl
  | cons m members ih =>
    obtain ⟨hm, hmembers⟩ := List.forall_mem_cons.1 hmembers
    have hcons : Table.ofMembers (m :: members) = (.str m.1, m.2) :: Table.ofMembers members := rfl
    rw [hcons, setAll_cons_of_not_isField config m.2 _ (mt isField_str.1 hm), ih hmembers]

/-- Rows with all the fields but one, followed by members that are none, give fields and custom
settings. -/
theorem ofTable_rows {rows : Members}
    (hrows : ∀ rest, setAll {} (Table.ofMembers rows ++ rest) =
      setAll { config with custom := .table [] } rest)
    (hcustom : config.custom = .table (Table.ofMembers members))
    (hnodup : (members.map Prod.fst).Nodup) (hmembers : ∀ m ∈ members, m.1 ∉ fieldNames) :
    ofTable (Table.ofMembers (rows ++ members)) = .ok config := by
  have happend : Table.ofMembers (rows ++ members) =
      Table.ofMembers rows ++ Table.ofMembers members :=
    List.map_append
  have hconfig : { config with custom := .table (Table.ofMembers members) } = config := by
    rw [← hcustom]
  have hmerge : merge [] members = members := Json.merge_of_fresh hnodup
  rw [happend, ofTable, hrows, setAll_of_not_isField hmembers]
  dsimp only
  split
  · next hempty =>
    obtain rfl : members = [] := by simpa [Table.ofMembers] using hempty
    exact congrArg Except.ok hconfig
  · change Except.ok { config
      with custom := .table (Table.update (Table.ofMembers []) (Table.ofMembers members)) } = _
    rw [Table.update_ofMembers, hmerge, hconfig]

/-- Custom settings without the name of a field go behind the fields. -/
theorem merge_rows {rows : Members} (hrows : (rows.map Prod.fst).Nodup)
    (hnames : ∀ name ∈ rows.map Prod.fst, name ∈ fieldNames) (hnodup : (members.map Prod.fst).Nodup)
    (hmembers : ∀ m ∈ members, m.1 ∉ fieldNames) : merge rows members = rows ++ members := by
  refine Json.merge_of_fresh ?_
  rw [List.map_append]
  refine hrows.append hnodup fun name hname hmember => ?_
  obtain ⟨m, hm, rfl⟩ := List.mem_map.1 hmember
  exact hmembers m hm (hnames _ hname)

/-- The settings over the defaults of a language are rows with all the fields but one. -/
theorem exists_rows {d : Members} (hd : d = [] ∨ d = dartDefaults) (config : Config) :
    ∃ rows : Members, merge d config.settings = rows ∧ (rows.map Prod.fst).Nodup ∧
      (∀ name ∈ rows.map Prod.fst, name ∈ fieldNames) ∧
      ∀ rest, setAll {} (Table.ofMembers rows ++ rest) =
        setAll { config with custom := .table [] } rest := by
  obtain rfl | rfl := hd
  · exact ⟨config.settings, Json.merge_of_fresh (nodup_settings config), nodup_settings config,
      mem_fieldNames_of_mem_settings config, fun _ => rfl⟩
  · have hnames : ∀ name ∈
        ["indent_size", "use_tabs", "add_banner", "emit_constants", "client_package", "output_dir",
        "line_ending"], name ∈ fieldNames := by decide
    exact ⟨[("indent_size", config.indentSize), ("use_tabs", config.useTabs),
      ("add_banner", config.addBanner), ("emit_constants", config.emitConstants),
      ("client_package", config.clientPackage), ("output_dir", config.outputDir),
      ("line_ending", config.lineEnding)], rfl, by simp, hnames, fun _ => rfl⟩

variable {d : Members} (hd : d = [] ∨ d = dartDefaults)
  (hcustom : config.custom = .table (Table.ofMembers members))
  (hnodup : (members.map Prod.fst).Nodup)

include hd hcustom hnodup

/-- If no custom setting has the name of a field, then all settings are found again. -/
theorem ofTable_merge (hmembers : ∀ m ∈ members, m.1 ∉ fieldNames) :
    ofTable (Table.ofMembers (merge d (config.settings ++ members))) = .ok config := by
  obtain ⟨rows, hrows, hnodupRows, hnames, hset⟩ := exists_rows hd config
  have happend : merge d (config.settings ++ members) = merge (merge d config.settings) members :=
    List.foldl_append
  rw [happend, hrows, merge_rows hnodupRows hnames hnodup hmembers]
  exact ofTable_rows hset hcustom hnodup hmembers

/-- If all settings are found again, then no custom setting has the name of a field. -/
theorem not_mem_fieldNames_of_ofTable
    (h : ofTable (Table.ofMembers (merge d (merge config.settings members))) = .ok config) :
    ∀ m ∈ members, m.1 ∉ fieldNames := by
  have hgiven : ∀ w, (.str "custom", w) ∈
      Table.ofMembers (merge d (merge config.settings members)) →
      ("custom", w) ∈ members := by
    intro w hw
    obtain ⟨⟨name, value⟩, hm, heq⟩ := Table.mem_ofMembers.1 hw
    cases heq
    have hd' : ("custom", value) ∉ d := by
      obtain rfl | rfl := hd
      · exact List.not_mem_nil
      · simp [dartDefaults]
    have hsettings : ("custom", value) ∉ config.settings := by simp [settings]
    exact (Json.mem_merge ((Json.mem_merge hm).resolve_left hd')).resolve_left hsettings
  -- A custom setting with the name of a field can only come from the setting named `custom`, and be
  -- less deep
  have hless : ∀ m ∈ members, m.1 ∈ fieldNames → ∃ w, ("custom", w) ∈ members ∧
      m.2.depth < w.depth := by
    intro m hm hfield
    obtain ⟨w, hw, hdepth⟩ | ⟨e, he, hunknown, hkey⟩ :=
      mem_custom_cases h hcustom (Table.mem_ofMembers.2 ⟨m, hm, rfl⟩)
    · exact ⟨w, hgiven w hw, hdepth⟩
    · obtain ⟨m', -, rfl⟩ := Table.mem_ofMembers.1 he
      have hname : Json.str m.1 = .str m'.1 := hkey.elim id Json.sameKey_str.1
      exact absurd (hname ▸ isField_str.2 hfield) hunknown
  intro m hm hfield
  obtain ⟨w, hw, -⟩ := hless m hm hfield
  obtain ⟨w', hw', hdepth⟩ := hless ("custom", w) hw (show "custom" ∈ fieldNames by decide)
  have hsame : ("custom", w) = ("custom", w') := List.inj_on_of_nodup_map hnodup hw hw' rfl
  cases hsame
  exact Nat.lt_irrefl _ hdepth

end Apart

/-! ## Reloading -/

/-- The limits allow for copying a configuration with these custom settings, and for reading it
again. -/
structure WithinLimits [Limits] (config : Config) (members : Members) : Prop where
  copied : Limits.copies config.toJson = true
  read : (Json.obj (config.settings ++ members)).nesting ≤ Limits.nesting

/-- Consider a configuration that was loaded from any file and any object of settings, whose custom
settings form an object, and a path to a JSON file that can be written.  No half of a surrogate pair
stands alone in the configuration: loading gives it whatever is read for such halves.  Saving it
there succeeds and loading that file for the same language gives the same configuration, exactly if
no custom setting has the name of a field and the limits allow for it. -/
theorem reload_saved_iff [Limits] [Json.LoneHalves] {fs disk emptied : FileSystem}
    {language settings file : Json} {config : Config} {members : Members} {path : String}
    (hsettings : settings = .null ∨ ∃ direct, settings = .obj direct)
    (hreadable : settings.Readable)
    (hload : ∀ [Json.LoneHalves], load fs language settings file = .ok config)
    (hcustom : config.custom = .table (Table.ofMembers members))
    (hextension : Text.lower (Path.ofString path).extension.toList = ".json".toList)
    (hwritable : disk.write (Path.ofString path) "" = .ok emptied) :
    (∃ saved, save disk config (Path.ofString path) = .ok saved ∧
        load saved language .null (.str path) = .ok config) ↔
      (∀ m ∈ members, m.1 ∉ fieldNames) ∧ WithinLimits config members := by
  obtain ⟨⟨d, hdefaults, hd⟩, hconfig⟩ := load_eq_ok hsettings hreadable hload
  have hnodup : (members.map Prod.fst).Nodup := by
    have hmembers := hconfig.custom
    rw [hcustom] at hmembers
    cases Table.readable_ofMembers.1 hmembers with
    | obj hnodup _ => exact hnodup
  have happend : (∀ m ∈ members, m.1 ∉ fieldNames) →
      merge config.settings members = config.settings ++ members :=
    merge_rows (nodup_settings config) (mem_fieldNames_of_mem_settings config) hnodup
  have hsaved := readable_saved hcustom hconfig
  constructor
  · rintro ⟨saved, hsave, hreload⟩
    obtain ⟨hcopied, hwrite⟩ := (save_eq_ok_iff hcustom hconfig).1 hsave
    obtain ⟨hnesting, htable⟩ :=
      (load_written_eq_ok_iff hextension hsaved hwrite hdefaults).1 hreload
    have hmembers := not_mem_fieldNames_of_ofTable hd hcustom hnodup htable
    exact ⟨hmembers, hcopied, happend hmembers ▸ hnesting⟩
  · rintro ⟨hmembers, hcopied, hnesting⟩
    obtain ⟨saved, hwrite⟩ := FileSystem.write_eq_ok_of_write hwritable
      (Json.obj (merge config.settings members)).toIndented
    refine ⟨saved, (save_eq_ok_iff hcustom hconfig).2 ⟨hcopied, hwrite⟩,
      (load_written_eq_ok_iff hextension hsaved hwrite hdefaults).2 ⟨?_, ?_⟩⟩
    · rw [happend hmembers]
      exact hnesting
    · rw [happend hmembers]
      exact ofTable_merge hd hcustom hnodup hmembers

theorem lower_extension_saved :
    Text.lower (Path.ofString "saved.json").extension.toList = ".json".toList := by
  decide

theorem write_saved : ({} : FileSystem).write (Path.ofString "saved.json") "" =
    .ok (({} : FileSystem).put ["saved.json"] (.file (Text.Utf8.encode ""))) := rfl

/-- A configuration for a library with a name. -/
def namedLibrary : Config :=
  { indentSize := .int 4, custom := .table [(.str "library_name", .str "models")] }

section

attribute [local instance] Limits.usual Json.LoneHalves.replaced

theorem namedLibrary_reloads :
    load {} (.str "dart") (.obj [("indent_size", .int 4), ("library_name", .str "models")]) .null =
        .ok namedLibrary ∧
      ∃ saved, save {} namedLibrary (Path.ofString "saved.json") = .ok saved ∧
        load saved (.str "dart") .null (.str "saved.json") = .ok namedLibrary := by
  have hload : ∀ [Json.LoneHalves], load {} (.str "dart")
      (.obj [("indent_size", .int 4), ("library_name", .str "models")]) .null =
        .ok namedLibrary := rfl
  have hreadable :
      (Json.obj [("indent_size", .int 4), ("library_name", .str "models")]).Readable := by
    refine .obj (by decide)
      (List.forall_mem_cons.2 ⟨?_, List.forall_mem_singleton.2 (.str "models")⟩)
    exact readable_digit (by decide)
  have hcustom : namedLibrary.custom =
      .table (Table.ofMembers [("library_name", .str "models")]) := rfl
  exact ⟨hload, (reload_saved_iff (.inr ⟨_, rfl⟩) hreadable hload hcustom lower_extension_saved
    write_saved).2 ⟨by decide, by decide, by decide⟩⟩

/-- A custom setting with the name of a field comes back as that field. -/
theorem custom_indent_size_lost :
    load {} (.str "dart") (.obj [("custom", .obj [("indent_size", .int 7)])]) .null =
        .ok { custom := .table [(.str "indent_size", .int 7)] } ∧
      ∃ saved, save {} { custom := .table [(.str "indent_size", .int 7)] }
          (Path.ofString "saved.json") = .ok saved ∧
        load saved (.str "dart") .null (.str "saved.json") = .ok { indentSize := .int 7 } := by
  have hload : load {} (.str "dart") (.obj [("custom", .obj [("indent_size", .int 7)])]) .null =
      .ok { custom := .table [(.str "indent_size", .int 7)] } := rfl
  have hseven : (Json.obj [("indent_size", .int 7)]).Readable :=
    .obj (List.nodup_singleton _) (List.forall_mem_singleton.2 (readable_digit (by decide)))
  have hreadable : (Json.obj [("custom", .obj [("indent_size", .int 7)])]).Readable :=
    .obj (List.nodup_singleton _) (List.forall_mem_singleton.2 hseven)
  have hcustom : ({ custom := .table [(.str "indent_size", .int 7)] } : Config).custom =
      .table (Table.ofMembers [("indent_size", .int 7)]) := rfl
  have hdefaults : languageDefaults (.str "dart") = .ok (Table.ofMembers dartDefaults) := rfl
  have hconfig := (load_eq_ok (.inr ⟨_, rfl⟩) hreadable hload).2
  obtain ⟨saved, hwrite⟩ := FileSystem.write_eq_ok_of_write write_saved
    (Json.obj (merge ({} : Config).settings [("indent_size", .int 7)])).toIndented
  refine ⟨hload, saved, (save_eq_ok_iff hcustom hconfig).2 ⟨by decide, hwrite⟩,
    (load_written_eq_ok_iff lower_extension_saved (readable_saved hcustom hconfig) hwrite
      hdefaults).2 ⟨by decide, rfl⟩⟩

end

end Config

end DartRecords
