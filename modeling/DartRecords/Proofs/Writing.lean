import DartRecords.CommandLine.Output
import DartRecords.Proofs.FileSystem
import DartRecords.Proofs.ListRelations

/-!
# Writing all files or none

Files are staged under temporary names beside their places, and moved when all of them have been
staged.  If staging fails the staged files are removed again.  This module says when that leaves
either all files in place or no regular file changed.

* `Lodged` describes a staged file: where its two paths lead, the one beside the other.
* `stages_stageFiles` is what staging does, `content?_discard` what the roll-back does, and
  `Waiting.publish_spec` what moving does in any case.
* `Publishable` names what may be in the way of moving: then a move fails, or overwrites what
  another move needs.  If nothing is, all files end in their places (`Publishable.publish_spec`).
-/

namespace DartRecords.CommandLine

open FileSystem

/-! ## Two paths side by side -/

/-- The path of a generated file. -/
def targetOf (directory : Path) (file : Dart.SourceFile) : Path :=
  directory.append (Path.ofString file.path)

/-- The temporary path beside the path of a file. -/
def temporaryOf? (target : Path) : Option Path := target.withName? (target.name ++ ".tmp")

/-- Where the two paths of a staged file lead. -/
structure Lodged (fs : FileSystem) (one : Staged) (temporary target : Place) : Prop where
  temporary_not_null : one.temporary.hasNull = false
  target_not_null : one.target.hasNull = false
  temporary_name : one.temporary.name ≠ ".."
  locate_temporary : fs.locate one.temporary = .ok temporary
  locate_target : fs.locate one.target = .ok target
  beside : one.target.name ≠ ".." → ∃ parent : Place,
    temporary = parent ++ [one.target.name ++ ".tmp"] ∧ target = parent ++ [one.target.name]

theorem Lodged.keeps {fs fs' : FileSystem} {one : Staged} {temporary target : Place}
    (h : Lodged fs one temporary target) (hkeeps : Keeps fs fs') :
    Lodged fs' one temporary target :=
  { h with
    locate_temporary := hkeeps.locate h.locate_temporary
    locate_target := hkeeps.locate h.locate_target }

theorem append_tmp_ne_dots (name : String) : name ++ ".tmp" ≠ ".." := by
  intro h
  have := congrArg (fun s : String => s.utf8ByteSize) h
  simp only [String.utf8ByteSize_append] at this
  have htmp : ".tmp".utf8ByteSize = 4 := by decide
  have hdots : "..".utf8ByteSize = 2 := by decide
  omega

theorem Lodged.temporary_ne_target {fs : FileSystem} {one : Staged} {temporary target : Place}
    (h : Lodged fs one temporary target) (hname : one.target.name ≠ "..") : target ≠ temporary := by
  obtain ⟨parent, rfl, rfl⟩ := h.beside hname
  intro heq
  have hlast : one.target.name = one.target.name ++ ".tmp" := by simpa using heq
  have := congrArg (fun s : String => s.utf8ByteSize) hlast
  simp only [String.utf8ByteSize_append] at this
  have htmp : ".tmp".utf8ByteSize = 4 := by decide
  omega

theorem temporaryOf?_eq_some {target temporary : Path} (h : temporaryOf? target = some temporary) :
    ∃ root names name, target = ⟨root, names ++ [name]⟩ ∧
      temporary = ⟨root, names ++ [name ++ ".tmp"]⟩ := by
  obtain ⟨root, parts⟩ := target
  rw [temporaryOf?, Path.withName?] at h
  split at h
  · cases h
  · next hparts =>
    have hne : parts ≠ [] := by simpa using hparts
    cases h
    refine ⟨root, parts.dropLast, parts.getLast hne, ?_, ?_⟩
    · rw [List.dropLast_concat_getLast]
    · simp [Path.name, List.getLast?_eq_getLast_of_ne_nil hne]

theorem Path.name_mk (root : String) (names : List String) (name : String) :
    Path.name ⟨root, names ++ [name]⟩ = name := by
  simp [Path.name]

theorem utf8ByteSize_intercalate_append (names : List String) (name ending : String) :
    ("/".intercalate (names ++ [name ++ ending])).utf8ByteSize =
      ("/".intercalate (names ++ [name])).utf8ByteSize + ending.utf8ByteSize := by
  cases names with
  | nil => simp [String.utf8ByteSize_append]
  | cons first names =>
    rw [String.intercalate_append_of_ne_nil (by simp) (by simp),
      String.intercalate_append_of_ne_nil (by simp) (by simp)]
    simp only [String.utf8ByteSize_append, String.intercalate_singleton]
    omega

/-- The text of the temporary path is the longer one. -/
theorem utf8ByteSize_toString_le (root : String) (names : List String) (name : String) :
    (Path.toString ⟨root, names ++ [name]⟩).utf8ByteSize ≤
      (Path.toString ⟨root, names ++ [name ++ ".tmp"]⟩).utf8ByteSize := by
  have hlong := utf8ByteSize_intercalate_append names name ".tmp"
  have htmp : ".tmp".utf8ByteSize = 4 := by decide
  have hpoint : ".".utf8ByteSize = 1 := by decide
  have hnonempty : (root ++ "/".intercalate (names ++ [name ++ ".tmp"])).isEmpty = false := by
    rw [String.isEmpty_eq_false_iff]
    intro hempty
    have := congrArg (fun s : String => s.utf8ByteSize) hempty
    simp only [String.utf8ByteSize_append, String.utf8ByteSize_empty] at this
    omega
  rw [Path.toString, Path.toString, hnonempty]
  dsimp only
  split
  · simp only [Bool.false_eq_true, if_false, String.utf8ByteSize_append]
    omega
  · simp only [Bool.false_eq_true, if_false, String.utf8ByteSize_append]
    omega

theorem hasNull_of_temporary {root name : String} {names : List String}
    (h : Path.hasNull ⟨root, names ++ [name ++ ".tmp"]⟩ = false) :
    Path.hasNull ⟨root, names ++ [name]⟩ = false := by
  simp only [Path.hasNull, List.any_append, List.any_cons, List.any_nil, Bool.or_false,
    Bool.or_eq_false_iff, String.toList_append, List.contains_append] at h ⊢
  exact ⟨h.1, h.2.1⟩

/-- The last name of a path is looked up in a directory. -/
theorem walk_concat {fs : FileSystem} {start place : Place} {names : List String} {name : String} :
    fs.walk start (names ++ [name]) = .ok place ↔
      ∃ parent, fs.walk start names = .ok parent ∧ fs.node? parent = some .directory ∧
        name.utf8ByteSize ≤ maxNameSize ∧
        place = if name = ".." then parent.dropLast else parent ++ [name] := by
  rw [walk_append]
  constructor
  · intro h
    cases hwalk : fs.walk start names with
    | error e =>
      rw [hwalk] at h
      cases h
    | ok parent =>
      rw [hwalk] at h
      change fs.walk parent [name] = .ok place at h
      rw [walk] at h
      split at h
      · cases h
      · cases h
      · next hnode =>
        split at h
        · cases h
        · next hsize =>
          rw [walk] at h
          cases h
          exact ⟨parent, rfl, hnode, by omega, rfl⟩
  · rintro ⟨parent, hwalk, hnode, hsize, rfl⟩
    rw [hwalk]
    change fs.walk parent [name] = _
    rw [walk, hnode]
    dsimp only
    rw [if_neg (by omega), walk]

/-- A file that has been staged is lodged. -/
theorem exists_lodged {fs : FileSystem} {target temporary : Path} {place : Place}
    (htemporary : temporaryOf? target = some temporary) (hnull : temporary.hasNull = false)
    (hlocate : fs.locate temporary = .ok place) :
    ∃ targetPlace, Lodged fs ⟨temporary, target⟩ place targetPlace := by
  obtain ⟨root, names, name, rfl, rfl⟩ := temporaryOf?_eq_some htemporary
  have htoString := utf8ByteSize_toString_le root names name
  rw [locate] at hlocate
  split at hlocate
  · cases hlocate
  · next hsize =>
    obtain ⟨parent, hwalk, hnode, hname, rfl⟩ := walk_concat.1 hlocate
    rw [if_neg (append_tmp_ne_dots name)] at hlocate ⊢
    have hname' : ¬maxNameSize < name.utf8ByteSize := by
      rw [String.utf8ByteSize_append] at hname
      omega
    refine ⟨if name = ".." then parent.dropLast else parent ++ [name], hnull,
      hasNull_of_temporary hnull, ?_, ?_, ?_, ?_⟩
    · rw [Path.name_mk]
      exact append_tmp_ne_dots name
    · rw [locate, if_neg hsize]
      exact hlocate
    · change fs.locate ⟨root, names ++ [name]⟩ = _
      rw [locate, if_neg (by omega)]
      exact walk_concat.2 ⟨parent, hwalk, hnode, by omega, rfl⟩
    · intro hdots
      rw [Path.name_mk] at hdots ⊢
      exact ⟨parent, rfl, by rw [if_neg hdots]⟩

/-! ## Staging -/

section Staging

variable {fs fs' : FileSystem} {directory : Path} {file : Dart.SourceFile} {one : Staged}

/-- A file that has been staged: its bytes are where its temporary path leads, and otherwise only
directories have been made. -/
theorem stageFile_eq_ok (h : stageFile fs directory file = (.ok one, fs')) :
    one.target = targetOf directory file ∧ temporaryOf? one.target = some one.temporary ∧
      Keeps fs fs' ∧ ∃ temporary target, Lodged fs' one temporary target ∧
        ∀ place, fs'.content? place =
          if place = temporary then some (Text.Utf8.encode file.code) else fs.content? place := by
  unfold stageFile at h
  dsimp only at h
  split at h
  · cases h
  · next temporary htemporary =>
    split at h
    · cases h
    · next made hmade =>
      split at h
      · cases h
      · next written hwritten =>
        cases h
        have hdirectories := OnlyMakesDirectories.of_ensureDirectories hmade
        obtain ⟨hnull, place, hlocate, hne, hnode, rfl⟩ := write_eq_ok hwritten
        have hput := Keeps.put hne hnode (.file (Text.Utf8.encode file.code))
        obtain ⟨target, hlodged⟩ := exists_lodged htemporary hnull hlocate
        refine ⟨rfl, htemporary, hdirectories.toKeeps.trans hput, place, target,
          hlodged.keeps hput, fun other => ?_⟩
        rw [content?_put_file hne, hdirectories.content?]

theorem stageFile_eq_error {e : WriteError} (h : stageFile fs directory file = (.error e, fs')) :
    OnlyMakesDirectories fs fs' := by
  unfold stageFile at h
  dsimp only at h
  split at h
  · cases h
    exact .refl fs
  · split at h
    · next made hmade =>
      cases h
      exact .of_ensureDirectories hmade
    · next made hmade =>
      split at h
      · cases h
        exact .of_ensureDirectories hmade
      · cases h

theorem stageFiles_of_error {e : WriteError} (h : stageFile fs directory file = (.error e, fs'))
    (rest : List Dart.SourceFile) : stageFiles fs directory (file :: rest) = ⟨[], some e, fs'⟩ := by
  rw [stageFiles.eq_def]
  dsimp only
  rw [h]

theorem stageFiles_of_ok (h : stageFile fs directory file = (.ok one, fs'))
    (rest : List Dart.SourceFile) :
    stageFiles fs directory (file :: rest) =
      ⟨one :: (stageFiles fs' directory rest).staged, (stageFiles fs' directory rest).fault,
        (stageFiles fs' directory rest).files⟩ := by
  rw [stageFiles.eq_def]
  dsimp only
  rw [h]

/-- What staging does, whether it ends with a fault or not: the staged files are lodged with their
bytes, and no other regular file changes. -/
structure Stages (fs : FileSystem) (files : List Dart.SourceFile) (staging : Staging) : Prop where
  keeps : Keeps fs staging.files
  lodged : ∀ one ∈ staging.staged, ∃ temporary target, Lodged staging.files one temporary target ∧
    ∃ file ∈ files, staging.files.content? temporary = some (Text.Utf8.encode file.code)
  frame : ∀ place, (∀ one ∈ staging.staged, staging.files.locate one.temporary ≠ .ok place) →
    staging.files.content? place = fs.content? place

theorem stages_stageFiles (fs : FileSystem) (directory : Path) (files : List Dart.SourceFile) :
    Stages fs files (stageFiles fs directory files) := by
  induction files generalizing fs with
  | nil => exact ⟨.refl fs, fun _ hone => absurd hone List.not_mem_nil, fun _ _ => rfl⟩
  | cons file rest ih =>
    rcases hstage : stageFile fs directory file with ⟨e | one, made⟩
    · rw [stageFiles_of_error hstage]
      have hmakes := stageFile_eq_error hstage
      exact ⟨hmakes.toKeeps, fun _ hone => absurd hone List.not_mem_nil, fun place _ =>
        hmakes.content? place⟩
    · rw [stageFiles_of_ok hstage]
      obtain ⟨-, -, hkeeps, temporary, target, hlodged, hcontent⟩ := stageFile_eq_ok hstage
      have hrest := ih made
      have hhead := hlodged.keeps hrest.keeps
      refine ⟨hkeeps.trans hrest.keeps, fun other hother => ?_, fun place hplace => ?_⟩
      · rcases List.mem_cons.1 hother with rfl | hother
        · refine ⟨temporary, target, hhead, ?_⟩
          -- A later file may have been staged at the same place.
          by_cases hlater : ∃ later ∈ (stageFiles made directory rest).staged,
              (stageFiles made directory rest).files.locate later.temporary = .ok temporary
          · obtain ⟨later, hmem, hlocate⟩ := hlater
            obtain ⟨temporary', _, hlodged', file', hfile', hbytes⟩ := hrest.lodged later hmem
            rw [hlodged'.locate_temporary] at hlocate
            cases hlocate
            exact ⟨file', List.mem_cons_of_mem _ hfile', hbytes⟩
          · refine ⟨file, List.mem_cons_self, ?_⟩
            rw [hrest.frame temporary fun later hmem hlocate => hlater ⟨later, hmem, hlocate⟩,
              hcontent, if_pos rfl]
        · obtain ⟨temporary', target', hlodged', file', hfile', hbytes⟩ := hrest.lodged other hother
          exact ⟨temporary', target', hlodged', file', List.mem_cons_of_mem _ hfile', hbytes⟩
      · rw [hrest.frame place fun later hmem =>
          hplace later (List.mem_cons_of_mem _ hmem), hcontent, if_neg]
        rintro rfl
        exact hplace one List.mem_cons_self hhead.locate_temporary

/-- The first step of a staging that ends without a fault. -/
theorem stageFiles_cons_of_fault_none {rest : List Dart.SourceFile}
    (h : (stageFiles fs directory (file :: rest)).fault = none) :
    ∃ one made, stageFile fs directory file = (.ok one, made) ∧
      stageFiles fs directory (file :: rest) =
        ⟨one :: (stageFiles made directory rest).staged, none,
          (stageFiles made directory rest).files⟩ ∧
      (stageFiles made directory rest).fault = none := by
  rcases hstage : stageFile fs directory file with ⟨e | one, made⟩
  · rw [stageFiles_of_error hstage] at h
    cases h
  · rw [stageFiles_of_ok hstage] at h ⊢
    exact ⟨one, made, rfl, congrArg (Staging.mk _ · _) h, h⟩

/-- When every file has been staged, each one has its paths. -/
theorem stageFiles_paths {files : List Dart.SourceFile}
    (h : (stageFiles fs directory files).fault = none) :
    List.Forall₂ (fun file one => one.target = targetOf directory file ∧
      temporaryOf? one.target =
        some one.temporary) files (stageFiles fs directory files).staged := by
  induction files generalizing fs with
  | nil => exact .nil
  | cons file rest ih =>
    obtain ⟨one, made, hstage, hfiles, hfault⟩ := stageFiles_cons_of_fault_none h
    obtain ⟨htarget, htemporary, -⟩ := stageFile_eq_ok hstage
    rw [hfiles]
    exact .cons ⟨htarget, htemporary⟩ (ih hfault)

/-- Files that are staged at different places all have their bytes there. -/
theorem stageFiles_content {files : List Dart.SourceFile} {staging : Staging}
    (hstaging : stageFiles fs directory files = staging) (h : staging.fault = none)
    (hdistinct : staging.staged.Pairwise fun one other =>
      staging.files.locate one.temporary ≠ staging.files.locate other.temporary) :
    List.Forall₂ (fun file one => one.target = targetOf directory file ∧
      temporaryOf? one.target = some one.temporary ∧
      ∀ place, staging.files.locate one.temporary = .ok place →
        staging.files.content? place = some (Text.Utf8.encode file.code)) files staging.staged := by
  subst hstaging
  induction files generalizing fs with
  | nil => exact .nil
  | cons file rest ih =>
    obtain ⟨one, made, hstage, hfiles, hfault⟩ := stageFiles_cons_of_fault_none h
    obtain ⟨htarget, htemporary, -, temporary, target, hlodged, hcontent⟩ := stageFile_eq_ok hstage
    have hrest := stages_stageFiles made directory rest
    have hhead := (hlodged.keeps hrest.keeps).locate_temporary
    rw [hfiles] at hdistinct ⊢
    refine .cons ⟨htarget, htemporary, fun place hplace => ?_⟩ (ih hfault hdistinct.of_cons)
    cases hhead.symm.trans hplace
    rw [hrest.frame temporary fun later hmem hlocate => ?_, hcontent, if_pos rfl]
    exact List.rel_of_pairwise_cons hdistinct hmem (hhead.trans hlocate.symm)

end Staging

/-! ## Rolling back -/

/-- Removing staged files empties the places under their temporary names and changes no other. -/
theorem content?_discard {fs : FileSystem} {staged : List Staged}
    (h : ∀ one ∈ staged, ∃ temporary target, Lodged fs one temporary target ∧
      fs.node? temporary ≠ some .directory) (place : Place) :
    (discard fs staged).content? place =
      if ∃ one ∈ staged, fs.locate one.temporary = .ok place then none else fs.content? place := by
  induction staged generalizing fs with
  | nil => simp [discard]
  | cons one rest ih =>
    obtain ⟨temporary, target, hlodged, hnode⟩ := h one List.mem_cons_self
    obtain ⟨fs', hunlink, hsame, hcontent⟩ :=
      unlink_of_locate hlodged.temporary_not_null hlodged.locate_temporary hnode
    have hrest : ∀ later ∈ rest, ∃ temporary target, Lodged fs' later temporary target ∧
        fs'.node? temporary ≠ some .directory := by
      intro later hmem
      obtain ⟨temporary', target', hlodged', hnode'⟩ := h later (List.mem_cons_of_mem _ hmem)
      exact ⟨temporary', target', hlodged'.keeps hsame.keeps,
        fun hdirectory => hnode' ((hsame.directory _).1 hdirectory)⟩
    have hlocate : ∀ later ∈ rest, fs'.locate later.temporary = fs.locate later.temporary := by
      intro later hmem
      obtain ⟨temporary', _, hlodged', -⟩ := h later (List.mem_cons_of_mem _ hmem)
      rw [hlodged'.locate_temporary, hsame.keeps.locate hlodged'.locate_temporary]
    have hiff : (∃ later ∈ rest, fs'.locate later.temporary = .ok place) ↔
        ∃ later ∈ rest, fs.locate later.temporary = .ok place :=
      ⟨fun ⟨later, hmem, hlater⟩ => ⟨later, hmem, hlocate later hmem ▸ hlater⟩,
        fun ⟨later, hmem, hlater⟩ => ⟨later, hmem, (hlocate later hmem).symm ▸ hlater⟩⟩
    rw [discard, hunlink]
    dsimp only
    rw [ih hrest, hcontent]
    simp only [hiff, List.exists_mem_cons_iff, hlodged.locate_temporary, Except.ok.injEq]
    by_cases hplace : temporary = place
    · simp [hplace]
    · simp [hplace, Ne.symm hplace]

/-! ## Moving staged files -/

section Publishing

variable {fs fs' : FileSystem} {one : Staged} {temporary target : Place}

theorem Lodged.move_eq (h : Lodged fs one temporary target) :
    fs.move one.temporary one.target =
      (if one.target.name = ".." then .error .busy else fs.moveNode temporary target).mapError
        fun reason => .notMoved reason one.temporary one.target := by
  rw [move, if_neg (by simp [h.temporary_not_null, h.target_not_null]), h.locate_temporary,
    h.locate_target]
  simp only [bind, Except.bind, h.temporary_name, decide_false, Bool.false_or, decide_eq_true_eq]

/-- A move that fails is a fault of the file system. -/
theorem Lodged.isFileFault (h : Lodged fs one temporary target) {e : FileError}
    (hmove : fs.move one.temporary one.target = .error e) :
    (WriteError.file e).isFileFault = true := by
  rw [h.move_eq] at hmove
  revert hmove
  generalize (if one.target.name = ".." then _ else fs.moveNode temporary target) = moved
  intro hmove
  cases moved with
  | error reason =>
    cases hmove
    rfl
  | ok fs' => cases hmove

/-- What a staged file needs in order to be moved. -/
theorem Lodged.exists_move (h : Lodged fs one temporary target) {bytes : List UInt8}
    (hbytes : fs.content? temporary = some bytes) (htarget : fs.node? target ≠ some .directory)
    (hname : one.target.name ≠ "..") :
    ∃ fs', fs.move one.temporary one.target = .ok fs' := by
  obtain ⟨fs', hmoved, -⟩ := moveNode_of_file (h.temporary_ne_target hname) hbytes htarget
  refine ⟨fs', ?_⟩
  rw [h.move_eq, if_neg hname, hmoved]
  rfl

/-- What a move of a staged file has found and what it does. -/
theorem Lodged.move_eq_ok (h : Lodged fs one temporary target)
    (hnode : fs.node? temporary ≠ some .directory)
    (hmove : fs.move one.temporary one.target = .ok fs') :
    one.target.name ≠ ".." ∧ fs.node? target ≠ some .directory ∧ SameDirectories fs fs' ∧
      ∃ bytes, fs.content? temporary = some bytes ∧ ∀ place, fs'.content? place =
        if place = target then some bytes else if place = temporary then none
        else fs.content? place := by
  rw [h.move_eq] at hmove
  split at hmove
  · cases hmove
  · next hname =>
    have hmoved : fs.moveNode temporary target = .ok fs' := by
      cases hmoved : fs.moveNode temporary target with
      | error reason =>
        rw [hmoved] at hmove
        cases hmove
      | ok moved =>
        rw [hmoved] at hmove
        cases hmove
        rfl
    obtain ⟨hsource, htarget⟩ := moveNode_eq_ok hmoved
    obtain ⟨bytes, hbytes⟩ : ∃ bytes, fs.content? temporary = some bytes := by
      cases hfound : fs.node? temporary with
      | none => exact absurd hfound hsource
      | some node =>
        cases node with
        | directory => exact absurd hfound hnode
        | file bytes => exact ⟨bytes, content?_eq_some.2 hfound⟩
    obtain ⟨fs'', hmoved', hsame, hcontent⟩ :=
      moveNode_of_file (h.temporary_ne_target hname) hbytes htarget
    cases hmoved.symm.trans hmoved'
    exact ⟨hname, htarget, hsame, bytes, hbytes, hcontent⟩

/-- Staged files that wait to be moved: their paths lead somewhere, and what is there under the
temporary names is no directory and satisfies a predicate. -/
def Waiting (New : List UInt8 → Prop) (fs : FileSystem) (staged : List Staged) : Prop :=
  ∀ one ∈ staged, ∃ temporary target, Lodged fs one temporary target ∧
    fs.node? temporary ≠ some .directory ∧ ∀ bytes, fs.content? temporary = some bytes → New bytes

section Waiting

variable {New : List UInt8 → Prop} {rest staged : List Staged}

/-- One move: the other files still wait, and there is a file with new content. -/
theorem Waiting.move (h : Waiting New fs (one :: rest))
    (hmove : fs.move one.temporary one.target = .ok fs') :
    Waiting New fs' rest ∧ SameDirectories fs fs' ∧
      ∃ place bytes, fs'.content? place = some bytes ∧ New bytes := by
  obtain ⟨temporary, target, hlodged, hnode, hnew⟩ := h one List.mem_cons_self
  obtain ⟨-, -, hsame, bytes, hbytes, hcontent⟩ := hlodged.move_eq_ok hnode hmove
  refine ⟨fun later hmem => ?_, hsame, target, bytes, ?_, hnew bytes hbytes⟩
  · obtain ⟨temporary', target', hlodged', hnode', hnew'⟩ := h later (List.mem_cons_of_mem _ hmem)
    refine ⟨temporary', target', hlodged'.keeps hsame.keeps,
      fun hdirectory => hnode' ((hsame.directory _).1 hdirectory), fun bytes' hbytes' => ?_⟩
    rw [hcontent] at hbytes'
    split at hbytes'
    · cases hbytes'
      exact hnew bytes hbytes
    · split at hbytes'
      · cases hbytes'
      · exact hnew' bytes' hbytes'
  · rw [hcontent, if_pos rfl]

/-- A path of a waiting file leads to the same place after a move. -/
theorem Waiting.locate (h : Waiting New fs staged) (hsame : SameDirectories fs fs')
    (hmem : one ∈ staged) : fs'.locate one.target = fs.locate one.target ∧
      fs'.locate one.temporary = fs.locate one.temporary := by
  obtain ⟨temporary, target, hlodged, -⟩ := h one hmem
  rw [hlodged.locate_target, hlodged.locate_temporary]
  exact ⟨hsame.keeps.locate hlodged.locate_target, hsame.keeps.locate hlodged.locate_temporary⟩

/-- A run of moves makes and removes no directory, and only the file system can stop it.  If there
was a file with new content there still is one. -/
theorem Waiting.publish_spec (h : Waiting New fs staged) :
    SameDirectories fs (publish fs staged).files ∧
    (∀ e, (publish fs staged).fault = some e → e.isFileFault = true) ∧
    ((∃ place bytes, fs.content? place = some bytes ∧ New bytes) →
      ∃ place bytes, (publish fs staged).files.content? place = some bytes ∧ New bytes) ∧
    ((publish fs staged).fault = none → ∀ one ∈ staged, one.target.name ≠ "..") := by
  induction staged generalizing fs with
  | nil => exact ⟨.refl fs, fun e he => absurd he (by simp [publish]), id,
      fun _ one hone => absurd hone (by simp)⟩
  | cons one rest ih =>
    obtain ⟨temporary, target, hlodged, hnode, -⟩ := h one List.mem_cons_self
    rw [publish]
    cases hmove : fs.move one.temporary one.target with
    | error e =>
      refine ⟨.refl fs, fun e' he' => ?_, id, fun hnone => absurd hnone (by simp)⟩
      cases he'
      exact hlodged.isFileFault hmove
    | ok fs' =>
      obtain ⟨hrest, hsame, hnew⟩ := h.move hmove
      obtain ⟨hname, -⟩ := hlodged.move_eq_ok hnode hmove
      obtain ⟨hsame', hfault, hcontent, hnames⟩ := ih hrest
      refine ⟨hsame.trans hsame', hfault, fun _ => hcontent hnew, fun hnone later hmem => ?_⟩
      rcases List.mem_cons.1 hmem with rfl | hmem
      · exact hname
      · exact hnames hnone later hmem

/-- Moves fill no place but their targets. -/
theorem Waiting.content?_eq_none {place : Place} (h : Waiting New fs staged)
    (htargets : ∀ one ∈ staged, fs.locate one.target ≠ .ok place)
    (hplace : fs.content? place = none) : (publish fs staged).files.content? place = none := by
  induction staged generalizing fs with
  | nil => exact hplace
  | cons one rest ih =>
    obtain ⟨temporary, target, hlodged, hnode, -⟩ := h one List.mem_cons_self
    rw [publish]
    cases hmove : fs.move one.temporary one.target with
    | error e => exact hplace
    | ok fs' =>
      obtain ⟨hrest, hsame, -⟩ := h.move hmove
      obtain ⟨-, -, -, bytes, -, hcontent⟩ := hlodged.move_eq_ok hnode hmove
      refine ih hrest (fun later hmem => ?_) ?_
      · rw [(h.locate hsame (List.mem_cons_of_mem _ hmem)).1]
        exact htargets later (List.mem_cons_of_mem _ hmem)
      · have hne : place ≠ target := by
          rintro rfl
          exact htargets one List.mem_cons_self hlodged.locate_target
        rw [hcontent, if_neg hne, hplace, ite_self]

/-- A file that has been moved is no longer under its temporary name, unless another one has been
moved there. -/
theorem Waiting.content?_temporary {place : Place} (h : Waiting New fs staged)
    (hfault : (publish fs staged).fault = none) (hmem : one ∈ staged)
    (hplace : fs.locate one.temporary = .ok place)
    (htargets : ∀ other ∈ staged, fs.locate other.target ≠ .ok place) :
    (publish fs staged).files.content? place = none := by
  induction staged generalizing fs with
  | nil => cases hmem
  | cons first rest ih =>
    obtain ⟨temporary, target, hlodged, hnode, -⟩ := h first List.mem_cons_self
    rw [publish] at hfault ⊢
    cases hmove : fs.move first.temporary first.target with
    | error e =>
      rw [hmove] at hfault
      cases hfault
    | ok fs' =>
      rw [hmove] at hfault
      obtain ⟨hrest, hsame, -⟩ := h.move hmove
      obtain ⟨-, -, -, bytes, -, hcontent⟩ := hlodged.move_eq_ok hnode hmove
      have htargets' : ∀ other ∈ rest, fs'.locate other.target ≠ .ok place := by
        intro other hother
        rw [(h.locate hsame (List.mem_cons_of_mem _ hother)).1]
        exact htargets other (List.mem_cons_of_mem _ hother)
      rcases List.mem_cons.1 hmem with rfl | hmem
      · rw [hlodged.locate_temporary] at hplace
        cases hplace
        have hne : place ≠ target := by
          rintro rfl
          exact htargets one List.mem_cons_self hlodged.locate_target
        exact hrest.content?_eq_none htargets' (by rw [hcontent, if_neg hne, if_pos rfl])
      · refine ih hrest hfault hmem ?_ htargets'
        rw [(h.locate hsame (List.mem_cons_of_mem _ hmem)).2, hplace]

end Waiting

/-- Nothing is in the way of moving staged files. -/
structure Publishable (fs : FileSystem) (staged : List Staged) : Prop where
  /-- No two files go to the same place. -/
  distinct : staged.Pairwise fun one other => fs.locate one.target ≠ fs.locate other.target
  /-- No file goes where a directory is. -/
  vacant : ∀ one ∈ staged, fs.isDirectory one.target = false
  /-- No path ends by leading upwards. -/
  named : ∀ one ∈ staged, one.target.name ≠ ".."
  /-- No file goes where another one still waits under its temporary name. -/
  apart : staged.Pairwise fun one later => fs.locate one.target ≠ fs.locate later.temporary

theorem Lodged.isDirectory_target (h : Lodged fs one temporary target) :
    fs.isDirectory one.target = true ↔ fs.node? target = some .directory := by
  rw [isDirectory, lookup, if_neg (by simp [h.target_not_null]), h.locate_target]
  dsimp only
  cases hnode : fs.node? target with
  | none => simp
  | some node => cases node <;> simp

/-- Two files under one temporary name go to the same place. -/
theorem Lodged.target_eq {other : Staged} {target' : Place} (h : Lodged fs one temporary target)
    (h' : Lodged fs other temporary target') (hname : one.target.name ≠ "..")
    (hname' : other.target.name ≠ "..") : target = target' := by
  obtain ⟨parent, rfl, rfl⟩ := h.beside hname
  obtain ⟨parent', htemporary, rfl⟩ := h'.beside hname'
  obtain ⟨rfl, hnames⟩ := List.append_inj' htemporary rfl
  have hname_eq : one.target.name = other.target.name := by
    have hnames : one.target.name ++ ".tmp" = other.target.name ++ ".tmp" := by simpa using hnames
    exact (String.append_left_inj _).1 hnames
  rw [hname_eq]

/-- Staged files all of which are there under their temporary names. -/
def Filled (fs : FileSystem) (staged : List Staged) : Prop :=
  ∀ one ∈ staged, ∃ temporary target bytes, Lodged fs one temporary target ∧
    fs.content? temporary = some bytes

theorem Filled.waiting {staged : List Staged} (h : Filled fs staged) :
    Waiting (fun _ => True) fs staged := by
  intro one hmem
  obtain ⟨temporary, target, bytes, hlodged, hbytes⟩ := h one hmem
  refine ⟨temporary, target, hlodged, ?_, fun _ _ => trivial⟩
  rw [content?_eq_some.1 hbytes]
  simp

/-- Moves leave every place alone that none of their paths leads to. -/
theorem Waiting.content?_frame {New : List UInt8 → Prop} {staged : List Staged} {place : Place}
    (h : Waiting New fs staged)
    (hplace : ∀ one ∈ staged, fs.locate one.target ≠ .ok place ∧
      fs.locate one.temporary ≠ .ok place) :
    (publish fs staged).files.content? place = fs.content? place := by
  induction staged generalizing fs with
  | nil => rfl
  | cons one rest ih =>
    obtain ⟨temporary, target, hlodged, hnode, -⟩ := h one List.mem_cons_self
    rw [publish]
    cases hmove : fs.move one.temporary one.target with
    | error e => rfl
    | ok fs' =>
      obtain ⟨hrest, hsame, -⟩ := h.move hmove
      obtain ⟨-, -, -, bytes, -, hcontent⟩ := hlodged.move_eq_ok hnode hmove
      obtain ⟨htarget, htemporary⟩ := hplace one List.mem_cons_self
      rw [hlodged.locate_target] at htarget
      rw [hlodged.locate_temporary] at htemporary
      dsimp only
      rw [ih hrest, hcontent, if_neg fun heq => htarget (congrArg _ heq.symm),
        if_neg fun heq => htemporary (congrArg _ heq.symm)]
      intro later hmem
      rw [(h.locate hsame (List.mem_cons_of_mem _ hmem)).1,
        (h.locate hsame (List.mem_cons_of_mem _ hmem)).2]
      exact hplace later (List.mem_cons_of_mem _ hmem)

/-- What is left to move after the first file has been moved. -/
theorem Publishable.move {rest : List Staged} (h : Publishable fs (one :: rest))
    (hfilled : Filled fs (one :: rest)) (hmove : fs.move one.temporary one.target = .ok fs') :
    Publishable fs' rest ∧ ∀ later ∈ rest, ∀ temporary target, Lodged fs later temporary target →
      Lodged fs' later temporary target ∧ fs'.content? temporary = fs.content? temporary := by
  obtain ⟨temporary, target, bytes, hlodged, hbytes⟩ := hfilled one List.mem_cons_self
  have hwaiting := hfilled.waiting
  obtain ⟨-, hsame, -⟩ := hwaiting.move hmove
  have hnode : fs.node? temporary ≠ some .directory := by
    rw [content?_eq_some.1 hbytes]
    simp
  obtain ⟨-, -, -, bytes', -, hcontent⟩ := hlodged.move_eq_ok hnode hmove
  have hlocate : ∀ later ∈ rest, fs'.locate later.target = fs.locate later.target ∧
      fs'.locate later.temporary = fs.locate later.temporary :=
    fun later hmem => hwaiting.locate hsame (List.mem_cons_of_mem _ hmem)
  refine ⟨⟨?_, ?_, ?_, ?_⟩, fun later hmem temporary' target' hlodged' => ⟨?_, ?_⟩⟩
  · refine h.distinct.of_cons.imp_of_mem fun hone hother hne => ?_
    rwa [(hlocate _ hone).1, (hlocate _ hother).1]
  · intro later hmem
    obtain ⟨temporary', target', -, hlodged', -⟩ := hfilled later (List.mem_cons_of_mem _ hmem)
    have hvacant := h.vacant later (List.mem_cons_of_mem _ hmem)
    rw [Bool.eq_false_iff, Ne, Lodged.isDirectory_target hlodged'] at hvacant
    rw [Bool.eq_false_iff, Ne, Lodged.isDirectory_target (hlodged'.keeps hsame.keeps),
      hsame.directory]
    exact hvacant
  · exact fun later hmem => h.named later (List.mem_cons_of_mem _ hmem)
  · refine h.apart.of_cons.imp_of_mem fun hone hother hne => ?_
    rwa [(hlocate _ hone).1, (hlocate _ hother).2]
  · exact hlodged'.keeps hsame.keeps
  · have htarget : temporary' ≠ target := by
      rintro rfl
      exact List.rel_of_pairwise_cons h.apart hmem
        (hlodged.locate_target.trans hlodged'.locate_temporary.symm)
    have htemporary : temporary' ≠ temporary := by
      rintro rfl
      have heq := hlodged.target_eq hlodged' (h.named one List.mem_cons_self)
        (h.named later (List.mem_cons_of_mem _ hmem))
      exact List.rel_of_pairwise_cons h.distinct hmem
        (hlodged.locate_target.trans (heq ▸ hlodged'.locate_target.symm))
    rw [hcontent, if_neg htarget, if_neg htemporary]

/-- If nothing is in the way all staged files are moved to their places. -/
theorem Publishable.publish_spec {staged : List Staged} (h : Publishable fs staged)
    (hfilled : Filled fs staged) : (publish fs staged).fault = none ∧
      ∀ one ∈ staged, ∀ temporary target, Lodged fs one temporary target →
        (publish fs staged).files.content? target = fs.content? temporary := by
  induction staged generalizing fs with
  | nil => exact ⟨rfl, fun one hone => absurd hone (by simp)⟩
  | cons one rest ih =>
    obtain ⟨temporary, target, bytes, hlodged, hbytes⟩ := hfilled one List.mem_cons_self
    have hvacant := h.vacant one List.mem_cons_self
    rw [Bool.eq_false_iff, Ne, hlodged.isDirectory_target] at hvacant
    obtain ⟨fs', hmove⟩ := hlodged.exists_move hbytes hvacant (h.named one List.mem_cons_self)
    obtain ⟨hrest, hlater⟩ := h.move hfilled hmove
    have hfilled' : Filled fs' rest := by
      intro later hmem
      obtain ⟨temporary', target', bytes', hlodged', hbytes'⟩ :=
        hfilled later (List.mem_cons_of_mem _ hmem)
      obtain ⟨hlodged'', hcontent⟩ := hlater later hmem _ _ hlodged'
      exact ⟨temporary', target', bytes', hlodged'', hcontent.trans hbytes'⟩
    obtain ⟨hfault, hcontents⟩ := ih hrest hfilled'
    rw [publish, hmove]
    refine ⟨hfault, fun other hmem temporary' target' hlodged' => ?_⟩
    rcases List.mem_cons.1 hmem with rfl | hmem
    · cases hlodged.locate_temporary.symm.trans hlodged'.locate_temporary
      cases hlodged.locate_target.symm.trans hlodged'.locate_target
      have hnode : fs.node? temporary ≠ some .directory := by
        rw [content?_eq_some.1 hbytes]
        simp
      obtain ⟨-, -, hsame, bytes', hbytes', hcontent⟩ := hlodged.move_eq_ok hnode hmove
      -- No later move touches the place of this file.
      have hframe : ∀ later ∈ rest, fs'.locate later.target ≠ .ok target ∧
          fs'.locate later.temporary ≠ .ok target := by
        intro later hmem
        obtain ⟨htarget, htemporary⟩ := hfilled.waiting.locate hsame (List.mem_cons_of_mem _ hmem)
        rw [htarget, htemporary, ← hlodged.locate_target]
        exact ⟨(List.rel_of_pairwise_cons h.distinct hmem).symm,
          (List.rel_of_pairwise_cons h.apart hmem).symm⟩
      dsimp only
      rw [hfilled'.waiting.content?_frame hframe, hcontent, if_pos rfl, hbytes']
    · obtain ⟨hlodged'', hcontent⟩ := hlater other hmem _ _ hlodged'
      exact (hcontents other hmem _ _ hlodged'').trans hcontent

end Publishing

end DartRecords.CommandLine
