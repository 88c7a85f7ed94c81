import DartRecords.Proofs.Writing

/-!
# When writing is all or nothing

`AllOrNothing` is the promise: if the file system stops the writing no regular file has changed,
and otherwise every file is in its place and nothing is left under a temporary name.  `SafeToWrite`
is what the promise depends on.  It is sufficient whatever the files hold, and it is necessary as
soon as the files hold something new, so that what has been written can be told apart.
-/

namespace DartRecords.CommandLine

open FileSystem

/-- The promise about writing files into a directory. -/
def AllOrNothing (fs : FileSystem) (directory : Path) (files : List Dart.SourceFile) : Prop :=
  match (writeFiles fs directory files).fault with
  | some e => e.isFileFault = true → ∀ place,
      (writeFiles fs directory files).files.content? place = fs.content? place
  | none => ∀ file ∈ files,
      (writeFiles fs directory files).files.read (targetOf directory file) =
        .ok (Text.Utf8.encode file.code) ∧
      ∀ temporary, temporaryOf? (targetOf directory file) = some temporary →
        (writeFiles fs directory files).files.read temporary =
            .error (.failed .noEntry temporary) ∨
          ∃ other ∈ files, (writeFiles fs directory files).files.locate temporary =
            (writeFiles fs directory files).files.locate (targetOf directory other)

/-- What all-or-nothing writing depends on.  If staging fails, no regular file may have stood under
a temporary name that was used; if it does not, nothing may be in the way of moving. -/
def SafeToWrite (fs : FileSystem) (directory : Path) (files : List Dart.SourceFile) : Prop :=
  match (stageFiles fs directory files).fault with
  | some e => e.isFileFault = true → ∀ one ∈ (stageFiles fs directory files).staged, ∀ place,
      (stageFiles fs directory files).files.locate one.temporary = .ok place →
        fs.content? place = none
  | none => Publishable (stageFiles fs directory files).files (stageFiles fs directory files).staged

/-- The files hold different bytes, and no regular file holds the bytes of one of them yet. -/
structure Fresh (fs : FileSystem) (files : List Dart.SourceFile) : Prop where
  distinct : files.Pairwise fun file other =>
    Text.Utf8.encode file.code ≠ Text.Utf8.encode other.code
  new : ∀ file ∈ files, ∀ place, fs.content? place ≠ some (Text.Utf8.encode file.code)

section

variable {fs : FileSystem} {directory : Path} {files : List Dart.SourceFile}

theorem Stages.filled {staging : Staging} (h : Stages fs files staging) :
    Filled staging.files staging.staged := by
  intro one hmem
  obtain ⟨temporary, target, hlodged, file, -, hbytes⟩ := h.lodged one hmem
  exact ⟨temporary, target, _, hlodged, hbytes⟩

/-- What a roll-back leaves, in terms of the file system before staging. -/
theorem Stages.content?_discard {staging : Staging} (h : Stages fs files staging) (place : Place) :
    (discard staging.files staging.staged).content? place =
      if ∃ one ∈ staging.staged, staging.files.locate one.temporary = .ok place then none
      else fs.content? place := by
  have hlodged : ∀ one ∈ staging.staged, ∃ temporary target,
      Lodged staging.files one temporary target ∧
        staging.files.node? temporary ≠ some .directory := by
    intro one hmem
    obtain ⟨temporary, target, hlodged, hnode, -⟩ := h.filled.waiting one hmem
    exact ⟨temporary, target, hlodged, hnode⟩
  rw [CommandLine.content?_discard hlodged]
  split
  · rfl
  · next hnone => exact h.frame place fun one hmem hlocate => hnone ⟨one, hmem, hlocate⟩

/-- After a fault in staging, all-or-nothing writing means that no staged file has hidden a regular
file. -/
theorem contents_kept_iff {staging : Staging} (h : Stages fs files staging) :
    (∀ place, (discard staging.files staging.staged).content? place = fs.content? place) ↔
      ∀ one ∈ staging.staged, ∀ place, staging.files.locate one.temporary = .ok place →
        fs.content? place = none := by
  constructor
  · intro hkept one hmem place hlocate
    rw [← hkept place, h.content?_discard, if_pos ⟨one, hmem, hlocate⟩]
  · intro hnone place
    rw [h.content?_discard]
    split
    · next hstaged =>
      obtain ⟨one, hmem, hlocate⟩ := hstaged
      exact (hnone one hmem place hlocate).symm
    · rfl

theorem Lodged.read_target {one : Staged} {temporary target : Place}
    (h : Lodged fs one temporary target) {bytes : List UInt8} :
    fs.read one.target = .ok bytes ↔ fs.content? target = some bytes := by
  rw [FileSystem.read, if_neg (by simp [h.target_not_null]), h.locate_target, content?]
  dsimp only
  cases fs.node? target with
  | none => simp
  | some node => cases node <;> simp

theorem Lodged.read_temporary {one : Staged} {temporary target : Place}
    (h : Lodged fs one temporary target) (hnode : fs.node? temporary ≠ some .directory)
    (hcontent : fs.content? temporary = none) :
    fs.read one.temporary = .error (.failed .noEntry one.temporary) := by
  rw [FileSystem.read, if_neg (by simp [h.temporary_not_null]), h.locate_temporary]
  dsimp only
  cases hfound : fs.node? temporary with
  | none => rfl
  | some node =>
    cases node with
    | directory => exact absurd hfound hnode
    | file bytes => rw [content?, hfound] at hcontent; cases hcontent

theorem writeFiles_of_staged (hfault : (stageFiles fs directory files).fault = none) :
    writeFiles fs directory files =
      publish (stageFiles fs directory files).files (stageFiles fs directory files).staged := by
  rw [writeFiles, hfault]

/-- Staged files that are all moved end where they belong. -/
theorem allOrNothing_of_publishable (hfault : (stageFiles fs directory files).fault = none)
    (hsafe : Publishable (stageFiles fs directory files).files
      (stageFiles fs directory files).staged) : AllOrNothing fs directory files := by
  have hstages := stages_stageFiles fs directory files
  have hfilled := hstages.filled
  obtain ⟨hpublished, hcontents⟩ := hsafe.publish_spec hfilled
  obtain ⟨hsame, -⟩ := hfilled.waiting.publish_spec
  -- Different targets have different temporary names beside them.
  have hdistinct : (stageFiles fs directory files).staged.Pairwise fun one other =>
      (stageFiles fs directory files).files.locate one.temporary ≠
        (stageFiles fs directory files).files.locate other.temporary := by
    refine hsafe.distinct.imp_of_mem fun {one other} hone hother hne heq => hne ?_
    obtain ⟨temporary, target, _, hlodged, -⟩ := hfilled one hone
    obtain ⟨temporary', target', _, hlodged', -⟩ := hfilled other hother
    rw [hlodged.locate_temporary, hlodged'.locate_temporary] at heq
    cases heq
    rw [hlodged.locate_target, hlodged'.locate_target,
      hlodged.target_eq hlodged' (hsafe.named one hone) (hsafe.named other hother)]
  rw [AllOrNothing, writeFiles_of_staged hfault, hpublished]
  intro file hfile
  obtain ⟨one, hone, htarget, htemporary, hbytes⟩ :=
    exists_of_forall₂_left (stageFiles_content rfl hfault hdistinct) hfile
  obtain ⟨temporary, target, _, hlodged, -⟩ := hfilled one hone
  have hlodged' := hlodged.keeps hsame.keeps
  rw [← htarget]
  refine ⟨?_, fun path hpath => ?_⟩
  · rw [hlodged'.read_target, hcontents one hone temporary target hlodged]
    exact hbytes temporary hlodged.locate_temporary
  · cases htemporary.symm.trans hpath
    by_cases hother : ∃ other ∈ (stageFiles fs directory files).staged,
        (stageFiles fs directory files).files.locate other.target = .ok temporary
    · obtain ⟨other, hmem, hlocate⟩ := hother
      obtain ⟨file', hfile', htarget', -⟩ :=
        exists_of_forall₂_left (stageFiles_paths hfault).flip hmem
      refine .inr ⟨file', hfile', ?_⟩
      rw [← htarget', hlodged'.locate_temporary, hsame.keeps.locate hlocate]
    · refine .inl (hlodged'.read_temporary ?_ ?_)
      · obtain ⟨temporary', _, hlodged'', hnode, -⟩ := hfilled.waiting one hone
        cases hlodged.locate_temporary.symm.trans hlodged''.locate_temporary
        rwa [Ne, hsame.directory]
      · exact hfilled.waiting.content?_temporary hpublished hone hlodged.locate_temporary
          fun other hmem hlocate => hother ⟨other, hmem, hlocate⟩

/-- If all files have been moved to different places and are there in the end, none of them went
where another one was still waiting. -/
theorem Waiting.apart {New : List UInt8 → Prop} {staged : List Staged} (h : Waiting New fs staged)
    (hfault : (publish fs staged).fault = none)
    (hdistinct : staged.Pairwise fun one other => fs.locate one.target ≠ fs.locate other.target)
    (hcontents : ∀ one ∈ staged, ∀ place, fs.locate one.target = .ok place →
      (publish fs staged).files.content? place ≠ none) :
    staged.Pairwise fun one later => fs.locate one.target ≠ fs.locate later.temporary := by
  induction staged generalizing fs with
  | nil => exact .nil
  | cons one rest ih =>
    rw [publish] at hfault hcontents
    cases hmove : fs.move one.temporary one.target with
    | error e =>
      rw [hmove] at hfault
      cases hfault
    | ok fs' =>
      rw [hmove] at hfault hcontents
      obtain ⟨hrest, hsame, -⟩ := h.move hmove
      have hlocate : ∀ later ∈ rest, fs'.locate later.target = fs.locate later.target ∧
          fs'.locate later.temporary = fs.locate later.temporary :=
        fun later hmem => h.locate hsame (List.mem_cons_of_mem _ hmem)
      have htail := ih hrest hfault
        (hdistinct.of_cons.imp_of_mem fun hone hother hne => by
          rwa [(hlocate _ hone).1, (hlocate _ hother).1])
        (fun later hmem place hplace => hcontents later (List.mem_cons_of_mem _ hmem) place
          ((hlocate later hmem).1 ▸ hplace))
      refine .cons (fun later hmem heq => ?_) (htail.imp_of_mem fun hone hother hne => by
        rwa [(hlocate _ hone).1, (hlocate _ hother).2] at hne)
      obtain ⟨temporary, target, hlodged, -⟩ := h one List.mem_cons_self
      refine hcontents one List.mem_cons_self target hlodged.locate_target ?_
      -- The later file has been moved away from the place, and no other one has been moved there.
      refine hrest.content?_temporary hfault hmem ?_ fun other hother hplace => ?_
      · rw [(hlocate later hmem).2, ← heq, hlodged.locate_target]
      · rw [(hlocate other hother).1, ← hlodged.locate_target] at hplace
        exact List.rel_of_pairwise_cons hdistinct hother hplace.symm

/-- Staged files wait with the bytes of files. -/
theorem Stages.waiting {staging : Staging} (h : Stages fs files staging) :
    Waiting (fun bytes => ∃ file ∈ files, bytes = Text.Utf8.encode file.code) staging.files
      staging.staged := by
  intro one hmem
  obtain ⟨temporary, target, hlodged, file, hfile, hbytes⟩ := h.lodged one hmem
  refine ⟨temporary, target, hlodged, ?_, fun bytes hbytes' => ⟨file, hfile, ?_⟩⟩
  · rw [content?_eq_some.1 hbytes]
    simp
  · cases hbytes'.symm.trans hbytes
    rfl

/-- Where moving new files has come to an end, a new file is somewhere. -/
theorem Fresh.exists_changed {staging : Staging} {e : WriteError} (hfresh : Fresh fs files)
    (h : Stages fs files staging)
    (hfault : (publish staging.files staging.staged).fault = some e) :
    ∃ place, (publish staging.files staging.staged).files.content? place ≠ fs.content? place := by
  obtain ⟨-, -, hnew, -⟩ := h.waiting.publish_spec
  obtain ⟨one, hone⟩ : ∃ one, one ∈ staging.staged := by
    refine List.exists_mem_of_ne_nil _ fun hnil => ?_
    rw [hnil] at hfault
    cases hfault
  obtain ⟨temporary, _, _, file, hfile, hbytes⟩ := h.lodged one hone
  obtain ⟨place, bytes, hplace, file', hfile', rfl⟩ :=
    hnew ⟨temporary, _, hbytes, file, hfile, rfl⟩
  refine ⟨place, fun hkept => hfresh.new file' hfile' place ?_⟩
  rw [← hkept, hplace]

/-- Once the staged files have been moved, each file is read where it belongs. -/
def Delivered (files : List Dart.SourceFile) (staging : Staging) : Prop :=
  List.Forall₂ (fun file one => (publish staging.files staging.staged).files.read one.target =
    .ok (Text.Utf8.encode file.code)) files staging.staged

theorem Stages.content?_target {staging : Staging} (h : Stages fs files staging) {one : Staged}
    (hone : one ∈ staging.staged) {place : Place}
    (hplace : staging.files.locate one.target = .ok place) {bytes : List UInt8}
    (hread : (publish staging.files staging.staged).files.read one.target = .ok bytes) :
    (publish staging.files staging.staged).files.content? place = some bytes := by
  obtain ⟨hsame, -⟩ := h.waiting.publish_spec
  obtain ⟨temporary, target, hlodged, -⟩ := h.lodged one hone
  cases hlodged.locate_target.symm.trans hplace
  exact (hlodged.keeps hsame.keeps).read_target.1 hread

/-- Files with different bytes are delivered to different places. -/
theorem Delivered.distinct {staging : Staging} (hdelivered : Delivered files staging)
    (hfresh : Fresh fs files) (h : Stages fs files staging) :
    staging.staged.Pairwise fun one other =>
      staging.files.locate one.target ≠ staging.files.locate other.target := by
  have hmem :=
    (List.forall₂_and_left _ _).2 ⟨fun one (hone : one ∈ staging.staged) => hone, hdelivered.flip⟩
  refine pairwise_of_forall₂ hmem.flip hfresh.distinct
    fun {file file' one other} hone hother hne heq => hne ?_
  obtain ⟨temporary, target, hlodged, -⟩ := h.lodged one hone.1
  have hfirst := h.content?_target hone.1 hlodged.locate_target hone.2
  have hsecond := h.content?_target hother.1 (heq.symm.trans hlodged.locate_target) hother.2
  exact Option.some.inj (hfirst.symm.trans hsecond)

theorem Delivered.content?_ne_none {staging : Staging} (hdelivered : Delivered files staging)
    (h : Stages fs files staging) {one : Staged} (hone : one ∈ staging.staged) {place : Place}
    (hplace : staging.files.locate one.target = .ok place) :
    (publish staging.files staging.staged).files.content? place ≠ none := by
  obtain ⟨file, -, hfile⟩ := exists_of_forall₂_left hdelivered.flip hone
  rw [h.content?_target hone hplace hfile]
  simp

/-- New files that are delivered had nothing in their way. -/
theorem Delivered.publishable {staging : Staging} (hdelivered : Delivered files staging)
    (hfresh : Fresh fs files) (h : Stages fs files staging)
    (hfault : (publish staging.files staging.staged).fault = none) :
    Publishable staging.files staging.staged where
  distinct := hdelivered.distinct hfresh h
  vacant one hone := by
    obtain ⟨hsame, -⟩ := h.waiting.publish_spec
    obtain ⟨temporary, target, hlodged, -⟩ := h.lodged one hone
    rw [Bool.eq_false_iff, Ne, hlodged.isDirectory_target, ← hsame.directory]
    exact fun hdirectory => hdelivered.content?_ne_none h hone hlodged.locate_target
      (content?_of_directory hdirectory)
  named := by
    obtain ⟨-, -, -, hnames⟩ := h.waiting.publish_spec
    exact hnames hfault
  apart := h.waiting.apart hfault (hdelivered.distinct hfresh h) fun _ hone _ hplace =>
    hdelivered.content?_ne_none h hone hplace

/-- New files that have been written all or nothing had nothing in their way. -/
theorem publishable_of_allOrNothing (hfresh : Fresh fs files)
    (hfault : (stageFiles fs directory files).fault = none)
    (h : AllOrNothing fs directory files) :
    Publishable (stageFiles fs directory files).files (stageFiles fs directory files).staged := by
  have hstages := stages_stageFiles fs directory files
  rw [AllOrNothing, writeFiles_of_staged hfault] at h
  cases hpublished : (publish (stageFiles fs directory files).files
      (stageFiles fs directory files).staged).fault with
  | some e =>
    rw [hpublished] at h
    obtain ⟨-, hfileFault, -⟩ := hstages.waiting.publish_spec
    obtain ⟨place, hchanged⟩ := hfresh.exists_changed hstages hpublished
    exact absurd (h (hfileFault e hpublished) place) hchanged
  | none =>
    rw [hpublished] at h
    have hdelivered : Delivered files (stageFiles fs directory files) := by
      have hpaths := (List.forall₂_and_left _ _).2
        ⟨fun file hfile => (h file hfile).1, stageFiles_paths hfault⟩
      refine hpaths.imp fun file one hone => ?_
      rw [hone.2.1]
      exact hone.1
    exact hdelivered.publishable hfresh hstages hpublished

/-- Writing is all or nothing if it is safe.  For files that hold something new it is all or nothing
only if it is safe. -/
theorem writing_all_or_nothing_iff_safe (fs : FileSystem) (directory : Path)
    (files : List Dart.SourceFile) :
    (SafeToWrite fs directory files → AllOrNothing fs directory files) ∧
    (Fresh fs files → (AllOrNothing fs directory files ↔ SafeToWrite fs directory files)) := by
  have hstages := stages_stageFiles fs directory files
  cases hfault : (stageFiles fs directory files).fault with
  | some e =>
    -- The same roll-back is described from both sides, whatever the files hold.
    have hiff : AllOrNothing fs directory files ↔ SafeToWrite fs directory files := by
      have hwritten : writeFiles fs directory files =
          ⟨[], some e, if e.isFileFault then
            discard (stageFiles fs directory files).files (stageFiles fs directory files).staged
            else (stageFiles fs directory files).files⟩ := by
        rw [writeFiles, hfault]
      rw [AllOrNothing, SafeToWrite, hfault, hwritten]
      refine imp_congr_right fun hfile => ?_
      rw [hfile]
      exact contents_kept_iff hstages
    exact ⟨hiff.2, fun _ => hiff⟩
  | none =>
    have hsafe : SafeToWrite fs directory files ↔
        Publishable (stageFiles fs directory files).files
          (stageFiles fs directory files).staged := by
      rw [SafeToWrite, hfault]
    rw [hsafe]
    exact ⟨allOrNothing_of_publishable hfault, fun hfresh =>
      ⟨publishable_of_allOrNothing hfresh hfault, allOrNothing_of_publishable hfault⟩⟩

end

/-! ## Two directories -/

theorem publishable_iff (fs : FileSystem) (staged : List Staged) :
    ((staged.Pairwise fun one other => fs.locate one.target ≠ fs.locate other.target) ∧
      (∀ one ∈ staged, fs.isDirectory one.target = false) ∧
      (∀ one ∈ staged, one.target.name ≠ "..") ∧
      staged.Pairwise fun one later => fs.locate one.target ≠ fs.locate later.temporary) ↔
    Publishable fs staged := by
  constructor
  · rintro ⟨hdistinct, hvacant, hnamed, hapart⟩
    exact ⟨hdistinct, hvacant, hnamed, hapart⟩
  · intro h
    exact ⟨h.distinct, h.vacant, h.named, h.apart⟩

instance (fs : FileSystem) (staged : List Staged) : Decidable (Publishable fs staged) :=
  decidable_of_iff _ (publishable_iff fs staged)

/-- The directory `out`. -/
def outDirectory : Path := ⟨"", ["out"]⟩

/-- Two files with one letter each. -/
def twoFiles : List Dart.SourceFile := [⟨"a.dart", "a"⟩, ⟨"b.dart", "b"⟩]

/-- In an empty file system both files are written. -/
theorem writing_twoFiles : Fresh {} twoFiles ∧ SafeToWrite {} outDirectory twoFiles ∧
    AllOrNothing {} outDirectory twoFiles := by
  have hfresh : Fresh {} twoFiles := by
    refine ⟨by decide +kernel, fun file _ place => ?_⟩
    cases place <;> simp [content?, node?]
  have hfault : (stageFiles {} outDirectory twoFiles).fault = none := by decide +kernel
  have hsafe : SafeToWrite {} outDirectory twoFiles := by
    rw [SafeToWrite, hfault]
    change Publishable _ _
    decide +kernel
  exact ⟨hfresh, hsafe,
    ((writing_all_or_nothing_iff_safe {} outDirectory twoFiles).2 hfresh).2 hsafe⟩

/-- A file system in which a directory stands where the second file belongs. -/
def blockedFiles : FileSystem :=
  { nodes := [(["out"], .directory), (["out", "b.dart"], .directory)] }

/-- The first file is written although the second one cannot be moved. -/
theorem blocked_twoFiles_not_all_or_nothing : ¬AllOrNothing blockedFiles outDirectory twoFiles := by
  have hfault : (writeFiles blockedFiles outDirectory twoFiles).fault =
      some (.file (.notMoved .isDirectory ⟨"", ["out", "b.dart.tmp"]⟩
        ⟨"", ["out", "b.dart"]⟩)) := by decide +kernel
  have hchanged : (writeFiles blockedFiles outDirectory twoFiles).files.content? ["out", "a.dart"] ≠
      blockedFiles.content? ["out", "a.dart"] := by decide +kernel
  rw [AllOrNothing, hfault]
  exact fun h => hchanged (h rfl _)

end DartRecords.CommandLine
