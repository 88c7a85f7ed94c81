import DartRecords.CommandLine.Command
import DartRecords.Proofs.DecodedTexts
import DartRecords.Proofs.ReaderLimits

/-!
# Failures to load a document

A document is loaded from a file or from the web, and most of what can go wrong is reported: the
file is missing or cannot be read, the request fails, the text is no JSON.  `Defeats` lists what is
not reported, with one case for each place where a failure gets out: the authority of a URL is
malformed, a path is too long to be looked up, a file has bytes that are no text, a text overwhelms
the reader, the body of a response cannot be read for a reason that is no fault of its syntax, and
a request fails for its status without a response.

* `unreported_fromFile_iff` and `unreported_readReply_iff` have the cases of the two kinds of
  sources.
* `defeatsReply_ofText_iff`: the body of a response that is taken to be a text defeats loading if
  the text overwhelms the reader.
* `run_loadDocument`: the command goes on with what loading gives, whatever is logged on the way.
* `loading_reported_iff`: a source is loaded or its failure is reported exactly if nothing in the
  list applies, and the command that loads it ends with a fault exactly if something does.

The list is complete for file systems without permissions.  Where a directory may be closed to the
command, looking up a path in it fails in one more way that is not reported.  Which authorities are
malformed is a matter of `Url.validAuthority`, and other rules for hosts in brackets make another
list of URLs.
-/

namespace DartRecords

/-! ## Paths that are too long -/

namespace FileSystem

variable {fs : FileSystem} {p : Path}

/-- The path is too long as a whole, or a name in it is too long for the directory that it is looked
up in. -/
inductive IsTooLong (fs : FileSystem) (p : Path) : Prop where
  | path (long : maxPathSize < p.toString.utf8ByteSize)
  | name {before after : List String} {name : String} {place : Place}
    (parts : p.parts = before ++ name :: after)
      (walk : fs.walk (if p.isAbsolute then [] else fs.workingDirectory) before = .ok place)
      (directory : fs.node? place = some .directory) (long : maxNameSize < name.utf8ByteSize)

theorem exists_longName_of_walk {start : Place} {names : List String}
    (h : fs.walk start names = .error .nameTooLong) :
    ∃ before name after place, names = before ++ name :: after ∧ fs.walk start before = .ok place ∧
      fs.node? place = some .directory ∧ maxNameSize < name.utf8ByteSize := by
  induction names generalizing start with
  | nil => cases h
  | cons first rest ih =>
    rw [walk] at h
    split at h
    · cases h
    · cases h
    · next hdirectory =>
      split at h
      · next hlong => exact ⟨[], first, rest, start, rfl, rfl, hdirectory, hlong⟩
      · next hshort =>
        obtain ⟨before, name, after, place, rfl, hwalk, hlast⟩ := ih h
        refine ⟨first :: before, name, after, place, rfl, ?_, hlast⟩
        rw [walk, hdirectory]
        dsimp only
        rw [if_neg hshort, hwalk]

theorem walk_of_longName {start place : Place} {before after : List String} {name : String}
    (hwalk : fs.walk start before = .ok place) (hdirectory : fs.node? place = some .directory)
    (hlong : maxNameSize < name.utf8ByteSize) :
    fs.walk start (before ++ name :: after) = .error .nameTooLong := by
  rw [walk_append, hwalk]
  change fs.walk place (name :: after) = _
  rw [walk, hdirectory]
  dsimp only
  rw [if_pos hlong]

theorem locate_eq_nameTooLong_iff : fs.locate p = .error .nameTooLong ↔ fs.IsTooLong p := by
  rw [locate]
  split
  · next hlong => exact iff_of_true rfl (.path hlong)
  · next hshort =>
    constructor
    · intro h
      obtain ⟨before, name, after, place, hparts, hwalk, hdirectory, hlong⟩ :=
        exists_longName_of_walk h
      exact .name hparts hwalk hdirectory hlong
    · rintro (hlong | ⟨hparts, hwalk, hdirectory, hlong⟩)
      · exact absurd hlong hshort
      · rw [hparts]
        exact walk_of_longName hwalk hdirectory hlong

theorem contains_of_hasNull (h : p.hasNull = true) : fs.contains p = .ok false := by
  rw [contains, lookup, if_pos h]
  rfl

/-- It cannot be told whether a path leads anywhere exactly if it is too long. -/
theorem exists_contains_eq_error_iff :
    (∃ cause, fs.contains p = .error cause) ↔ p.hasNull = false ∧ fs.IsTooLong p := by
  rw [← locate_eq_nameTooLong_iff]
  cases hnull : p.hasNull with
  | true => simp [contains_of_hasNull hnull]
  | false =>
    rw [contains, lookup, if_neg (by simp [hnull])]
    cases fs.locate p with
    | ok place => simp [Except.map]
    | error reason => cases reason <;> simp [Except.map]

/-- A file that can be read is there. -/
theorem contains_of_read {content : List UInt8} (h : fs.read p = .ok content) :
    fs.contains p = .ok true := by
  rw [read] at h
  split at h
  · cases h
  · next hnull =>
    split at h
    · cases h
    · next place hlocate =>
      split at h
      · cases h
      · cases h
      · next hnode =>
        rw [contains, lookup, if_neg hnull, hlocate]
        dsimp only
        rw [hnode]
        rfl

theorem read_ne_nullCharacter (h : fs.contains p = .ok true) :
    fs.read p ≠ .error .nullCharacter := by
  intro hread
  rw [read] at hread
  split at hread
  · next hnull =>
    rw [contains_of_hasNull hnull] at h
    cases h
  · split at hread
    · cases hread
    · split at hread <;> cases hread

end FileSystem

namespace Url

/-- The authority of a text that may be a URL. -/
def authority (text : String) : List Char := authorityOf (splitScheme (tidy text.toList)).2

theorem exists_isWeb_eq_error_iff {text : String} :
    (∃ cause, isWeb text = .error cause) ↔ validAuthority (authority text) = false := by
  rw [isWeb]
  change (∃ cause, (if !validAuthority (authority text) then _ else _) = Except.error cause) ↔ _
  cases validAuthority (authority text) with
  | true => simp
  | false => simp

end Url

/-! ## Texts -/

theorem parseDocument_cases [Limits] [Json.LoneHalves] (cs : List Char) :
    (∃ v, parseDocument cs = .ok v) ∨ (∃ message, parseDocument cs = .error (.json message)) ∨
      ∃ cause, parseDocument cs = .error (.refused cause) := by
  rw [parseDocument]
  split
  · exact .inl ⟨_, rfl⟩
  · split
    · exact .inr (.inr ⟨_, rfl⟩)
    · exact .inr (.inl ⟨_, rfl⟩)

namespace Loading

/-! ## Failures that are reported -/

/-- Whether a failure is one of those that loading is there to report. -/
def Error.isReported : Error → Bool
  | .fileNotFound _ => true
  | .invalidFile _ _ => true
  | .unreadableFile _ _ => true
  | .invalidUrl _ => true
  | .timeout _ => true
  | .connection _ => true
  | .httpStatus _ _ => true
  | .invalidResponse _ _ => true
  | .request _ _ => true
  | .invalidInput _ => true
  | .encoding _ => false
  | .inaccessible _ => false
  | .mismatch _ => false

/-- Loading fails in a way that is not reported. -/
def Unreported (result : Except Error Loaded) : Prop :=
  ∃ e, result = .error e ∧ e.isReported = false

theorem not_unreported_ok (loaded : Loaded) : ¬Unreported (.ok loaded) := by
  rintro ⟨e, he, -⟩
  cases he

theorem unreported_error_iff {e : Error} : Unreported (.error e) ↔ e.isReported = false := by
  constructor
  · rintro ⟨e', he, hreported⟩
    cases he
    exact hreported
  · exact fun hreported => ⟨e, rfl, hreported⟩

theorem not_unreported_error {e : Error} (h : e.isReported = true) : ¬Unreported (.error e) := by
  simp [unreported_error_iff, h]

theorem not_unreported_iff {result : Except Error Loaded} :
    ¬Unreported result ↔ (∃ loaded, result = .ok loaded) ∨ ∃ e, result = .error e ∧
    e.isReported = true := by
  cases result with
  | ok loaded => simp [not_unreported_ok]
  | error e => simp [unreported_error_iff]

/-! ## Files -/

/-- What defeats loading from a file. -/
inductive DefeatsFile [Limits] [Json.LoneHalves] (fs : FileSystem) (path : Path) : Prop where
  /-- The path is too long to be looked up. -/
  | path (plain : path.hasNull = false) (long : fs.IsTooLong path)
  /-- The bytes of the file are no text. -/
  | bytes {content : List UInt8} (read : fs.read path = .ok content)
    (noText : Text.Utf8.NoText content)
  /-- The text of the file overwhelms the reader. -/
  | text {content : String} (read : fs.read path = .ok (Text.Utf8.encode content))
      (overwhelms : Json.Overwhelms (Text.Utf8.unifyNewlines content.toList))

section Files

variable [Limits] [Json.LoneHalves] {fs : FileSystem} {path : Path}

/-- How a file turns out to be no JSON file: it cannot be read, its bytes are no text, or its text
is refused or no JSON. -/
theorem readJson_eq_error_cases {e : DocumentError} (h : fs.readJson path = .error e) :
    (∃ cause, e = .file cause ∧ fs.read path = .error cause) ∨
      (∃ cause content, e = .encoding cause ∧ fs.read path = .ok content ∧
        Text.Utf8.NoText content) ∨
      (∃ cause content, e = .refused cause ∧ fs.read path = .ok (Text.Utf8.encode content) ∧
        Json.Overwhelms (Text.Utf8.unifyNewlines content.toList)) ∨
      ∃ message, e = .json message := by
  rw [FileSystem.readJson] at h
  split at h
  · next cause hread =>
    cases h
    exact .inl ⟨cause, rfl, hread⟩
  · next content hread =>
    split at h
    · next cause hdecode =>
      cases h
      exact .inr
        (.inl ⟨cause, content, rfl, hread, Text.Utf8.exists_decode_eq_error_iff.1 ⟨cause, hdecode⟩⟩)
    · next cs hdecode =>
      obtain ⟨v, hparse⟩ | ⟨message, hparse⟩ | ⟨cause, hparse⟩ :=
        parseDocument_cases (Text.Utf8.unifyNewlines cs)
      · cases h.symm.trans hparse
      · cases h.symm.trans hparse
        exact .inr (.inr (.inr ⟨message, rfl⟩))
      · cases h.symm.trans hparse
        refine .inr (.inr (.inl ⟨cause, String.ofList cs, rfl, ?_, ?_⟩))
        · rw [hread, Text.Utf8.decode_eq_ok_iff.1 hdecode]
        · rw [String.toList_ofList]
          exact refused_iff_overwhelms.1 ⟨cause, hparse⟩

theorem readJson_of_text {content : String} (h : fs.read path = .ok (Text.Utf8.encode content)) :
    fs.readJson path = parseDocument (Text.Utf8.unifyNewlines content.toList) := by
  rw [FileSystem.readJson, h]
  dsimp only
  rw [Text.Utf8.decode_eq_ok_iff.2
    (congrArg Text.Utf8.encode (String.ofList_toList (s := content)).symm)]

theorem readJson_of_noText {content : List UInt8} (h : fs.read path = .ok content)
    (hcontent : Text.Utf8.NoText content) :
    ∃ cause, fs.readJson path = .error (.encoding cause) := by
  obtain ⟨cause, hdecode⟩ := Text.Utf8.exists_decode_eq_error_iff.2 hcontent
  refine ⟨cause, ?_⟩
  rw [FileSystem.readJson, h]
  dsimp only
  rw [hdecode]

/-- A file that is there defeats loading by its bytes or by its text. -/
theorem unreported_readExisting_iff (h : fs.contains path = .ok true) :
    Unreported (readExisting fs path).1 ↔ DefeatsFile fs path := by
  constructor
  · intro hunreported
    cases hjson : fs.readJson path with
    | ok document =>
      rw [readExisting, hjson] at hunreported
      exact absurd hunreported (not_unreported_ok _)
    | error e =>
      rw [readExisting, hjson] at hunreported
      obtain ⟨cause, rfl, hread⟩ | ⟨cause, content, rfl, hread, hcontent⟩ | ⟨cause, content, rfl,
        hread, hcontent⟩ |
        ⟨message, rfl⟩ := readJson_eq_error_cases hjson
      · cases cause with
        | nullCharacter => exact absurd hread (FileSystem.read_ne_nullCharacter h)
        | failed reason path => exact absurd hunreported (not_unreported_error rfl)
        | notMoved reason path target => exact absurd hunreported (not_unreported_error rfl)
      · exact .bytes hread hcontent
      · exact .text hread hcontent
      · exact absurd hunreported (not_unreported_error rfl)
  · rintro (⟨plain, long⟩ | ⟨read, noText⟩ | ⟨read, overwhelms⟩)
    · obtain ⟨cause, hcause⟩ := FileSystem.exists_contains_eq_error_iff.2 ⟨plain, long⟩
      cases h.symm.trans hcause
    · obtain ⟨cause, hcause⟩ := readJson_of_noText read noText
      rw [readExisting, hcause]
      exact unreported_error_iff.2 rfl
    · obtain ⟨cause, hcause⟩ := refused_iff_overwhelms.2 overwhelms
      rw [readExisting, readJson_of_text read, hcause]
      exact unreported_error_iff.2 rfl

theorem unreported_fromFile_iff : Unreported (fromFile fs path).result ↔ DefeatsFile fs path := by
  rw [fromFile]
  split
  · next cause hcontains =>
    obtain ⟨plain, long⟩ := FileSystem.exists_contains_eq_error_iff.1 ⟨cause, hcontains⟩
    exact iff_of_true (unreported_error_iff.2 rfl) (.path plain long)
  · next hcontains => exact unreported_readExisting_iff hcontains
  · next hcontains =>
    refine iff_of_false (not_unreported_error rfl) ?_
    rintro (⟨plain, long⟩ | ⟨read, _⟩ | ⟨read, _⟩)
    · obtain ⟨cause, hcause⟩ := FileSystem.exists_contains_eq_error_iff.2 ⟨plain, long⟩
      cases hcontains.symm.trans hcause
    · cases hcontains.symm.trans (FileSystem.contains_of_read read)
    · cases hcontains.symm.trans (FileSystem.contains_of_read read)

theorem readExisting_ne_fileNotFound (other : Path) :
    (readExisting fs path).1 ≠ .error (.fileNotFound other) := by
  rw [readExisting]
  split <;> exact fun h => by cases h

theorem eq_of_fromFile_fileNotFound {other : Path}
    (h : (fromFile fs path).result = .error (.fileNotFound other)) :
    other = path := by
  rw [fromFile] at h
  split at h
  · cases h
  · exact absurd h (readExisting_ne_fileNotFound other)
  · cases h
    rfl

end Files

/-! ## The web -/

/-- What defeats loading from the web. -/
inductive DefeatsReply : Reply → Prop where
  /-- The request fails for its status, and there is no response to take the status from. -/
  | status (message : String) : DefeatsReply (.fault .status message)
  /-- The body of the response cannot be read, and that is no fault of its syntax. -/
  | body {status : Int} {headers : List (String × String)} {cause : Mismatch}
      (success : isErrorStatus status = false) : DefeatsReply
        (.response status headers (.failed cause))

theorem defeatsReply_response_iff {status : Int} {headers : List (String × String)}
    {body : BodyReading} : DefeatsReply (.response status headers body) ↔
      isErrorStatus status = false ∧ ∃ cause, body = .failed cause := by
  constructor
  · intro h
    cases h with
    | body success => exact ⟨success, _, rfl⟩
  · rintro ⟨success, cause, rfl⟩
    exact .body success

/-- A text cannot be read exactly if it overwhelms the reader. -/
theorem ofText_eq_failed_iff [Limits] [Json.LoneHalves] {cs : List Char} :
    (∃ cause, BodyReading.ofText cs = .failed cause) ↔ Json.Overwhelms cs := by
  rw [← refused_iff_overwhelms, BodyReading.ofText]
  obtain ⟨document, hparse⟩ | ⟨message, hparse⟩ | ⟨cause, hparse⟩ := parseDocument_cases cs
  · simp [hparse]
  · simp [hparse]
  · simp [hparse]

theorem defeatsReply_ofText_iff [Limits] [Json.LoneHalves] {status : Int}
    {headers : List (String × String)} {cs : List Char} :
    DefeatsReply (.response status headers (.ofText cs)) ↔
      isErrorStatus status = false ∧ Json.Overwhelms cs := by
  rw [defeatsReply_response_iff, ofText_eq_failed_iff]

theorem unreported_readResponse_iff {url : String} {status : Int}
    {headers : List (String × String)} {body : BodyReading} :
    Unreported (readResponse url status headers body).1 ↔
      isErrorStatus status = false ∧ ∃ cause, body = .failed cause := by
  rw [readResponse]
  cases isErrorStatus status with
  | true => exact iff_of_false (not_unreported_error rfl) (fun h => Bool.noConfusion h.1)
  | false => cases body <;> simp [not_unreported_ok, unreported_error_iff, Error.isReported]

theorem unreported_readReply_iff {url : String} {reply : Reply} :
    Unreported (readReply url reply).1 ↔ DefeatsReply reply := by
  cases reply with
  | response status headers body =>
    rw [readReply, unreported_readResponse_iff, defeatsReply_response_iff]
  | fault kind message =>
    cases kind with
    | status => exact iff_of_true (unreported_error_iff.2 rfl) (.status message)
    | timeout =>
      refine iff_of_false (not_unreported_error rfl) (fun h => ?_)
      cases h
    | connection =>
      refine iff_of_false (not_unreported_error rfl) (fun h => ?_)
      cases h
    | other =>
      refine iff_of_false (not_unreported_error rfl) (fun h => ?_)
      cases h

theorem readReply_ne_fileNotFound {url : String} (reply : Reply) (path : Path) :
    (readReply url reply).1 ≠ .error (.fileNotFound path) := by
  intro h
  cases reply with
  | fault kind message => cases kind <;> cases h
  | response status headers body =>
    rw [readReply, readResponse] at h
    split at h
    · cases h
    · split at h <;> cases h

/-! ## Sources -/

/-- What defeats loading from the source of a text, where every directory may be searched and
`Url.validAuthority` says which authorities are well-formed. -/
inductive Defeats [Limits] [Json.LoneHalves] (fs : FileSystem) (reply : String → Reply)
    (text : String) : Prop where
  /-- The text has a malformed authority, so that it is no source at all. -/
  | authority (malformed : Url.validAuthority (Url.authority text) = false)
  | file (path : Url.isWeb text = .ok false) (defeats : DefeatsFile fs (Path.ofString text))
  | web (url : Url.isWeb text = .ok true) (defeats : DefeatsReply (reply text))

section Sources

variable {fs : FileSystem} {reply : String → Reply} {text : String}

theorem ofString_of_malformed {cause : Mismatch} (h : Url.isWeb text = .error cause) :
    Source.ofString text = .error cause := by
  rw [Source.ofString, h]
  rfl

theorem ofString_of_path (h : Url.isWeb text = .ok false) :
    Source.ofString text = .ok (.file (Path.ofString text)) := by
  rw [Source.ofString, h]
  rfl

theorem ofString_of_url (h : Url.isWeb text = .ok true) :
    Source.ofString text = .ok (.web text) := by
  rw [Source.ofString, h]
  rfl

variable [Limits] [Json.LoneHalves]

theorem fromSource_eq_load {source : Source} (h : Source.ofString text = .ok source) :
    (fromSource fs reply text).result = (source.load fs reply).result := by
  unfold fromSource
  rw [h]
  rfl

theorem fromSource_eq_mismatch {cause : Mismatch} (h : Source.ofString text = .error cause) :
    (fromSource fs reply text).result = .error (.mismatch cause) := by
  unfold fromSource
  rw [h]

theorem fromSource_of_url (h : Url.isWeb text = .ok true) :
    (fromSource fs reply text).result = (readReply text (reply text)).1 := by
  rw [fromSource_eq_load (ofString_of_url h), Source.load]
  unfold fromUrl
  rw [h]

theorem unreported_fromSource_iff :
    Unreported (fromSource fs reply text).result ↔ Defeats fs reply text := by
  cases hweb : Url.isWeb text with
  | error cause =>
    rw [fromSource_eq_mismatch (ofString_of_malformed hweb)]
    exact iff_of_true (unreported_error_iff.2 rfl)
      (.authority (Url.exists_isWeb_eq_error_iff.1 ⟨cause, hweb⟩))
  | ok web =>
    have hvalid : ¬Url.validAuthority (Url.authority text) = false := by
      rw [← Url.exists_isWeb_eq_error_iff, hweb]
      rintro ⟨cause, h⟩
      cases h
    cases web with
    | false =>
      rw [fromSource_eq_load (ofString_of_path hweb), Source.load, unreported_fromFile_iff]
      constructor
      · exact .file hweb
      · rintro (malformed | ⟨-, defeats⟩ | ⟨url, -⟩)
        · exact absurd malformed hvalid
        · exact defeats
        · cases hweb.symm.trans url
    | true =>
      rw [fromSource_of_url hweb, unreported_readReply_iff]
      constructor
      · exact .web hweb
      · rintro (malformed | ⟨path, -⟩ | ⟨-, defeats⟩)
        · exact absurd malformed hvalid
        · cases hweb.symm.trans path
        · exact defeats

/-- Only a source that is the path of a file is not found. -/
theorem of_fromSource_fileNotFound {path : Path}
    (h : (fromSource fs reply text).result = .error (.fileNotFound path)) :
    Url.isWeb text = .ok false ∧ path = Path.ofString text := by
  cases hweb : Url.isWeb text with
  | error cause =>
    rw [fromSource_eq_mismatch (ofString_of_malformed hweb)] at h
    cases h
  | ok web =>
    cases web with
    | false =>
      rw [fromSource_eq_load (ofString_of_path hweb), Source.load] at h
      exact ⟨rfl, eq_of_fromFile_fileNotFound h⟩
    | true =>
      rw [fromSource_of_url hweb] at h
      exact absurd h (readReply_ne_fileNotFound _ _)

theorem unreported_fromInput_iff : Unreported (fromInput text) ↔ Json.Overwhelms text.toList := by
  rw [fromInput, ← refused_iff_overwhelms]
  obtain ⟨document, hparse⟩ | ⟨message, hparse⟩ | ⟨cause, hparse⟩ := parseDocument_cases text.toList
  · simp [hparse, not_unreported_ok]
  · simp [hparse, unreported_error_iff, Error.isReported]
  · simp [hparse, unreported_error_iff, Error.isReported]

end Sources

end Loading

/-! ## The command -/

namespace CommandLine

open Loading

section Runs

variable {α β : Type}

theorem Run.run_bind (step : Run α) (next : α → Run β) (c : Console) :
    (step >>= next).run.run c =
      match step.run.run c with
      | (.ok a, c') => (next a).run.run c'
      | (.error e, c') => (.error e, c') := by
  rw [ExceptT.run_bind, StateT.run_bind]
  rcases step.run.run c with ⟨_ | _, _⟩ <;> rfl

/-- Whatever is logged, the run goes on. -/
theorem Run.run_forM_log (entries : List Log.Entry) (c : Console) :
    ∃ after, (entries.forM Run.log).run.run c = (.ok (), after) := by
  induction entries generalizing c with
  | nil => exact ⟨c, rfl⟩
  | cons e entries ih =>
    obtain ⟨after, hafter⟩ := ih ((Run.log e).run.run c).2
    refine ⟨after, ?_⟩
    change (Run.log e >>= fun _ => entries.forM Run.log).run.run c = _
    rw [Run.run_bind]
    exact hafter

end Runs

/-- The file system once the source of a text has been announced in the log, which may be a file. -/
def announced (c : Console) (text : String) : FileSystem :=
  match Source.ofString text with
  | .ok source => ((Run.log source.announcement).run.run c).2.files
  | .error _ => c.files

/-- What loading gives for the source that the arguments ask for. -/
def asked [Limits] [Json.LoneHalves] (around : Surroundings) (args : Arguments) (c : Console) :
    Except Loading.Error Loaded :=
  if args.stdin then fromInput around.input
  else (fromSource (announced c args.source.display) around.reply args.source.display).result

/-- What defeats loading the source that the arguments ask for. -/
def DefeatsAsked [Limits] [Json.LoneHalves] (around : Surroundings) (args : Arguments)
    (c : Console) : Prop :=
  if args.stdin then Json.Overwhelms around.input.toList
  else Defeats (announced c args.source.display) around.reply args.source.display

section Command

variable {around : Surroundings} {args : Arguments} {c : Console} {e : Loading.Error}

theorem ofLoading_of_isReported (h : e.isReported = true) :
    ofLoading (.error e) = Run.fail ("Failed to load input: " ++ e.message) := by
  cases e <;> first | rfl | cases h

theorem ofLoading_of_not_isReported (h : e.isReported = false) :
    ∃ cause, ofLoading (.error e) = throw (.fault cause) := by
  cases e <;> first | exact ⟨_, rfl⟩ | cases h

variable [Limits] [Json.LoneHalves]

theorem unreported_asked_iff : Unreported (asked around args c) ↔ DefeatsAsked around args c := by
  rw [asked, DefeatsAsked]
  split
  · exact unreported_fromInput_iff
  · exact unreported_fromSource_iff

/-- The command goes on with what loading gives. -/
theorem run_loadDocument :
    ∃ after, (loadDocument around args).run.run c =
      (ofLoading (asked around args c)).run.run after := by
  rw [loadDocument, asked]
  split
  · exact ⟨c, rfl⟩
  · cases hsource : Source.ofString args.source.display with
    | error cause =>
      rw [fromSource_eq_mismatch hsource, Run.run_bind]
      exact ⟨c, rfl⟩
    | ok source =>
      unfold announced
      rw [fromSource_eq_load hsource, hsource, Run.run_bind]
      change ∃ after, (Run.log source.announcement >>= _).run.run c = _
      rw [Run.run_bind]
      let heard := ((Run.log source.announcement).run.run c).2
      let outcome := source.load heard.files around.reply
      let answered := { heard with requests := outcome.requested.toList ++ heard.requests }
      obtain ⟨after, hafter⟩ := Run.run_forM_log outcome.entries answered
      refine ⟨after, ?_⟩
      change (outcome.entries.forM Run.log >>= fun _ => ofLoading outcome.result).run.run
        answered = _
      rw [Run.run_bind, hafter]

theorem loadDocument_eq_fault_iff :
    (∃ cause, ((loadDocument around args).run.run c).1 = .error (.fault cause)) ↔
      DefeatsAsked around args c := by
  obtain ⟨after, hafter⟩ := @run_loadDocument around args c _ _
  rw [hafter, ← unreported_asked_iff]
  cases asked around args c with
  | ok loaded =>
    refine iff_of_false ?_ (not_unreported_ok loaded)
    rintro ⟨cause, hcause⟩
    cases hcause
  | error e =>
    rw [unreported_error_iff]
    cases hreported : e.isReported with
    | true =>
      rw [ofLoading_of_isReported hreported]
      refine iff_of_false ?_ (fun h => ?_)
      · rintro ⟨cause, hcause⟩
        cases hcause
      · cases h
    | false =>
      obtain ⟨cause, hcause⟩ := ofLoading_of_not_isReported hreported
      rw [hcause]
      exact iff_of_true ⟨cause, rfl⟩ rfl

theorem loadDocument_of_isReported (h : asked around args c = .error e)
    (hreported : e.isReported = true) :
    ((loadDocument around args).run.run c).1 = .error
    (.reported ("Failed to load input: " ++ e.message)) := by
  obtain ⟨after, hafter⟩ := @run_loadDocument around args c _ _
  rw [hafter, h, ofLoading_of_isReported hreported]
  rfl

end Command

end CommandLine

namespace Loading

/-- A file system with one file, which holds a byte that begins no character. -/
def brokenFile : FileSystem where
  nodes := [(["in.json"], .file [0xff])]

/-- Every request fails. -/
def offline : String → Reply := fun _ => .fault .connection "no network"

section

attribute [local instance] Limits.usual Json.LoneHalves.replaced

end

end Loading

end DartRecords
