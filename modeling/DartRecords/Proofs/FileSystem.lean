import DartRecords.FileSystem.Basic
import DartRecords.Proofs.ListRelations

/-!
# What operations on files change

A file system is looked at through the contents of its regular files (`content?`) and through its
directories.

* `node?_put` and `node?_remove` say what a single change does.
* `Keeps` says that no directory has gone; then a path that led somewhere still leads there
  (`Keeps.locate`).
* `OnlyMakesDirectories` is what making directories does, whether it succeeds or not.
* `write_eq_ok`, `unlink_of_locate` and `moveNode_eq_ok` say what a write, a removal and a move come
  to in terms of places.
-/

namespace DartRecords

/-! ## Changes of single nodes -/

theorem lookup_filter_ne {β : Type} (entries : List (Place × β)) (place other : Place) :
    (entries.filter (·.1 ≠ place)).lookup other =
      if other = place then none else entries.lookup other := by
  induction entries with
  | nil => simp
  | cons entry entries ih =>
    obtain ⟨key, value⟩ := entry
    by_cases hkey : key = place
    · rw [List.filter_cons_of_neg (by simpa using hkey), ih]
      by_cases hother : other = place
      · rw [if_pos hother, if_pos hother]
      · rw [if_neg hother, if_neg hother, lookup_cons_of_ne (hkey ▸ hother)]
    · rw [List.filter_cons_of_pos (by simpa using hkey)]
      by_cases hother : other = key
      · subst hother
        rw [if_neg hkey, List.lookup_cons_self, List.lookup_cons_self]
      · rw [lookup_cons_of_ne hother, lookup_cons_of_ne hother, ih]

namespace FileSystem

variable {fs fs' : FileSystem} {place : Place}

theorem node?_put (hne : place ≠ []) (node : FileNode) (other : Place) :
    (fs.put place node).node? other = if other = place then some node else fs.node? other := by
  by_cases hother : other = []
  · subst hother
    rw [if_neg (Ne.symm hne)]
    rfl
  · simp only [node?, put, List.isEmpty_iff, hother, if_false]
    by_cases hplace : other = place
    · rw [if_pos hplace, hplace, List.lookup_cons_self]
    · rw [if_neg hplace, lookup_cons_of_ne hplace, lookup_filter_ne, if_neg hplace]

theorem node?_remove (hne : place ≠ []) (other : Place) :
    (fs.remove place).node? other = if other = place then none else fs.node? other := by
  by_cases hother : other = []
  · subst hother
    rw [if_neg (Ne.symm hne)]
    rfl
  · have hlookup := lookup_filter_ne fs.nodes place other
    simpa only [node?, remove, List.isEmpty_iff, hother, if_false] using hlookup

/-- The content of the regular file at a place. -/
def content? (fs : FileSystem) (place : Place) : Option (List UInt8) :=
  match fs.node? place with
  | some (.file content) => some content
  | _ => none

theorem content?_eq_some {content : List UInt8} :
    fs.content? place = some content ↔ fs.node? place = some (.file content) := by
  rw [content?]
  split
  · next c hnode => simp [hnode]
  · next hnode => simpa using fun h => hnode content h

theorem content?_of_directory (h : fs.node? place = some .directory) :
    fs.content? place = none := by
  rw [content?, h]

theorem content?_put_file (hne : place ≠ []) (content : List UInt8) (other : Place) :
    (fs.put place (.file content)).content? other =
      if other = place then some content else fs.content? other := by
  rw [content?, node?_put hne]
  by_cases hother : other = place
  · rw [if_pos hother, if_pos hother]
  · rw [if_neg hother, if_neg hother]
    rfl

theorem content?_remove (hne : place ≠ []) (other : Place) :
    (fs.remove place).content? other = if other = place then none else fs.content? other := by
  rw [content?, node?_remove hne]
  by_cases hother : other = place
  · rw [if_pos hother, if_pos hother]
  · rw [if_neg hother, if_neg hother]
    rfl

/-! ## Paths keep leading to their places -/

/-- No directory of the first file system has gone from the second. -/
structure Keeps (fs fs' : FileSystem) : Prop where
  workingDirectory : fs'.workingDirectory = fs.workingDirectory
  directory : ∀ {place : Place}, fs.node? place = some .directory →
    fs'.node? place = some .directory

namespace Keeps

theorem refl (fs : FileSystem) : Keeps fs fs := ⟨rfl, id⟩

theorem trans {first second third : FileSystem} (h : Keeps first second) (h' : Keeps second third) :
    Keeps first third :=
  ⟨h'.workingDirectory.trans h.workingDirectory, fun hdirectory =>
    h'.directory (h.directory hdirectory)⟩

theorem walk (h : Keeps fs fs') {start : Place} {names : List String}
    (hwalk : fs.walk start names = .ok place) : fs'.walk start names = .ok place := by
  induction names generalizing start with
  | nil => exact hwalk
  | cons name names ih =>
    rw [FileSystem.walk] at hwalk ⊢
    split at hwalk
    · cases hwalk
    · cases hwalk
    · next hnode =>
      rw [h.directory hnode]
      dsimp only
      split at hwalk
      · cases hwalk
      · next hsize =>
        rw [if_neg hsize]
        exact ih hwalk

/-- A path that leads to a place still leads there. -/
theorem locate (h : Keeps fs fs') {p : Path} (hlocate : fs.locate p = .ok place) :
    fs'.locate p = .ok place := by
  rw [FileSystem.locate] at hlocate ⊢
  split at hlocate
  · cases hlocate
  · next hsize =>
    rw [if_neg hsize, h.workingDirectory]
    exact h.walk hlocate

/-- Putting a node where no directory was. -/
theorem put (hne : place ≠ []) (hplace : fs.node? place ≠ some .directory) (node : FileNode) :
    Keeps fs (fs.put place node) := by
  refine ⟨rfl, fun {other} hother => ?_⟩
  rw [node?_put hne, if_neg, hother]
  rintro rfl
  exact hplace hother

end Keeps

theorem walk_append {start : Place} (names rest : List String) :
    fs.walk start (names ++ rest) = (fs.walk start names).bind fun middle =>
      fs.walk middle rest := by
  induction names generalizing start with
  | nil => rfl
  | cons name names ih =>
    rw [List.cons_append, walk, walk]
    split
    · rfl
    · rfl
    · split
      · rfl
      · exact ih

/-! ## Making directories -/

/-- The second file system is the first one with more directories. -/
structure OnlyMakesDirectories (fs fs' : FileSystem) : Prop extends Keeps fs fs' where
  content? : ∀ place, fs'.content? place = fs.content? place

namespace OnlyMakesDirectories

theorem refl (fs : FileSystem) : OnlyMakesDirectories fs fs := ⟨.refl fs, fun _ => rfl⟩

theorem trans {first second third : FileSystem} (h : OnlyMakesDirectories first second)
    (h' : OnlyMakesDirectories second third) : OnlyMakesDirectories first third :=
  ⟨h.toKeeps.trans h'.toKeeps, fun place => (h'.content? place).trans (h.content? place)⟩

theorem of_makeDirectory {p : Path} (h : fs.makeDirectory p = .ok fs') :
    OnlyMakesDirectories fs fs' := by
  rw [makeDirectory] at h
  split at h
  · cases h
  · split at h
    · cases h
    · next place _ =>
      split at h
      · cases h
      · next hnode =>
        cases h
        have hne : place ≠ [] := by
          rintro rfl
          cases hnode
        refine ⟨.put hne (by simp [hnode]) _, fun other => ?_⟩
        rw [FileSystem.content?, FileSystem.content?, node?_put hne]
        by_cases hother : other = place
        · rw [if_pos hother, hother, hnode]
        · rw [if_neg hother]

theorem of_ensureDirectory {p : Path} (h : fs.ensureDirectory p = .ok fs') :
    OnlyMakesDirectories fs fs' := by
  rw [ensureDirectory] at h
  split at h
  · next made hmade =>
    cases h
    exact of_makeDirectory hmade
  · split at h
    · cases h
      exact .refl fs
    · cases h

theorem of_ensureDirectoriesWithin (fuel : Nat) (fs : FileSystem) (p : Path) :
    OnlyMakesDirectories fs (ensureDirectoriesWithin fuel fs p).2 := by
  induction fuel generalizing fs p with
  | zero =>
    rw [ensureDirectoriesWithin.eq_def]
    split
    · next made hmade => exact of_makeDirectory hmade
    · exact .refl fs
    · split <;> exact .refl fs
  | succ fuel ih =>
    rw [ensureDirectoriesWithin.eq_def]
    split
    · next made hmade => exact of_makeDirectory hmade
    · have habove := ih fs p.parent
      dsimp only
      split
      · next above hresult => rwa [hresult] at habove
      · next above hresult =>
        rw [hresult] at habove
        split
        · next made hmade => exact habove.trans (of_ensureDirectory hmade)
        · exact habove
    · split <;> exact .refl fs

theorem of_ensureDirectories {p : Path} {result : Except FileError Unit}
    (h : fs.ensureDirectories p = (result, fs')) : OnlyMakesDirectories fs fs' := by
  have hwithin := of_ensureDirectoriesWithin p.parts.length fs p
  rw [ensureDirectories] at h
  rwa [h] at hwithin

end OnlyMakesDirectories

/-! ## Writing, removing and moving files -/

/-- A write that succeeds puts the bytes of its text where its path leads. -/
theorem write_eq_ok {p : Path} {text : String} (h : fs.write p text = .ok fs') :
    p.hasNull = false ∧ ∃ place, fs.locate p = .ok place ∧ place ≠ [] ∧
      fs.node? place ≠ some .directory ∧ fs' = fs.put place (.file (Text.Utf8.encode text)) := by
  rw [write, edit] at h
  split at h
  · cases h
  · next hnull =>
    refine ⟨by simpa using hnull, ?_⟩
    split at h
    · cases h
    · next place hlocate =>
      have hne : fs.node? place ≠ some .directory → place ≠ [] := by
        rintro hnode rfl
        exact hnode rfl
      split at h
      · next hnode =>
        cases h
        exact ⟨place, hlocate, hne (by simp [hnode]), by simp [hnode], rfl⟩
      · cases h
      · next content hnode =>
        cases h
        exact ⟨place, hlocate, hne (by simp [hnode]), by simp [hnode], rfl⟩

/-- Both file systems have the same directories. -/
structure SameDirectories (fs fs' : FileSystem) : Prop where
  workingDirectory : fs'.workingDirectory = fs.workingDirectory
  directory : ∀ place, fs'.node? place = some .directory ↔ fs.node? place = some .directory

namespace SameDirectories

theorem refl (fs : FileSystem) : SameDirectories fs fs := ⟨rfl, fun _ => Iff.rfl⟩

theorem trans {first second third : FileSystem} (h : SameDirectories first second)
    (h' : SameDirectories second third) : SameDirectories first third :=
  ⟨h'.workingDirectory.trans h.workingDirectory,
    fun place => (h'.directory place).trans (h.directory place)⟩

theorem keeps (h : SameDirectories fs fs') : Keeps fs fs' :=
  ⟨h.workingDirectory, (h.directory _).2⟩

end SameDirectories

theorem ne_nil_of_not_directory (h : fs.node? place ≠ some .directory) : place ≠ [] := by
  rintro rfl
  exact h rfl

/-- Removing what a path leads to, unless that is a directory. -/
theorem unlink_of_locate {p : Path} (hnull : p.hasNull = false) (hlocate : fs.locate p = .ok place)
    (hnode : fs.node? place ≠ some .directory) :
    ∃ fs', fs.unlink p = .ok fs' ∧ SameDirectories fs fs' ∧
      ∀ other, fs'.content? other = if other = place then none else fs.content? other := by
  have hne := ne_nil_of_not_directory hnode
  rw [unlink, if_neg (by simp [hnull]), hlocate]
  dsimp only
  split
  · next hnone =>
    refine ⟨fs, rfl, .refl fs, fun other => ?_⟩
    by_cases hother : other = place
    · rw [if_pos hother, hother, content?, hnone]
    · rw [if_neg hother]
  · next hdirectory => exact absurd hdirectory hnode
  · refine ⟨_, rfl, ⟨rfl, fun other => ?_⟩, content?_remove hne⟩
    change (fs.remove place).node? other = _ ↔ _
    rw [node?_remove hne]
    by_cases hother : other = place
    · rw [if_pos hother, hother]
      simp [hnode]
    · rw [if_neg hother]

/-- A move within one file system, from a file to a place that is no directory. -/
theorem moveNode_of_file {source : Place} {bytes : List UInt8} (hneq : place ≠ source)
    (hsource : fs.content? source = some bytes) (hplace : fs.node? place ≠ some .directory) :
    ∃ fs', fs.moveNode source place = .ok fs' ∧ SameDirectories fs fs' ∧
      ∀ other, fs'.content? other =
        if other = place then some bytes else if other = source then none
        else fs.content? other := by
  have hnode := content?_eq_some.1 hsource
  have hne := ne_nil_of_not_directory hplace
  have hsource_ne : source ≠ [] := by
    rintro rfl
    cases hnode
  have hmoved : fs.moveNode source place =
      .ok { (fs.remove source).put place (.file bytes) with
            opened := fs.opened.map (afterMove source place) } := by
    rw [moveNode, hnode]
    split
    · next hnone => cases hnone
    · next hdirectory => exact absurd hdirectory hplace
    · next node hfile _ =>
      cases hfile
      rw [if_neg hneq]
  refine ⟨_, hmoved, ⟨rfl, fun other => ?_⟩, fun other => ?_⟩
  · change ((fs.remove source).put place (.file bytes)).node? other = _ ↔ _
    rw [node?_put hne, node?_remove hsource_ne]
    by_cases hother : other = place
    · rw [if_pos hother, hother]
      simp [hplace]
    · rw [if_neg hother]
      by_cases hother' : other = source
      · rw [if_pos hother', hother', hnode]
        simp
      · rw [if_neg hother']
  · change ((fs.remove source).put place (.file bytes)).content? other = _
    rw [content?_put_file hne, content?_remove hsource_ne]

/-- What a move that succeeds has found. -/
theorem moveNode_eq_ok {source : Place} (h : fs.moveNode source place = .ok fs') :
    fs.node? source ≠ none ∧ fs.node? place ≠ some .directory := by
  rw [moveNode] at h
  split at h
  · cases h
  · cases h
  · next node hnode hplace => exact ⟨by simp [hnode], hplace⟩

end FileSystem

end DartRecords
