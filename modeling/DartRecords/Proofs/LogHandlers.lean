import DartRecords.Log.Logger
import Mathlib.Data.List.Count

/-!
# Handlers of the logger

Setting the logger up adds a handler for the console and perhaps one for a file, and then marks the
logger as configured, so that later calls add no more.  A call whose file cannot be opened has added
its handler for the console by then, but it does not get to the mark.

* `Setup.handlers_apply` and `Setup.configured_apply` say what one call does.
* `handlers_setUpAll`: after any calls the logger has the handlers of those in `adding`, the calls
  with a known level up to the first one whose file can be opened.
* `entries_once_iff`: there is at most one handler for a file, and at most one for the console
  exactly if the first call with a known level can open its file or is the only such call.  In terms
  of entries: none is ever written into a file twice, and none is ever printed twice in exactly
  these cases.
-/

namespace DartRecords.Log

/-- Whether entries are written into a file. -/
def Handler.isFile : Handler → Bool
  | .console => false
  | .file _ => true

/-! ## One call -/

/-- A call that sets the logger up, with the file system that it finds. -/
structure Setup where
  files : FileSystem := {}
  level : Json := .str "WARNING"
  file : Json := .null

namespace Setup

/-- The logger after the call, whether or not the call fails. -/
def apply (call : Setup) (logger : Logger) : Logger :=
  (logger.setup call.files call.level call.file).2.1

/-- Whether the level of the call is known. -/
def hasLevel (call : Setup) : Bool := (levelOf call.level).isOk

/-- Whether the call asks for no file, or for one that can be opened. -/
def opensFile (call : Setup) : Bool := (Logger.openFile call.files call.file).isOk

/-- The handlers for files that the call adds if it gets that far. -/
def fileHandlers (call : Setup) : List Handler :=
  match Logger.openFile call.files call.file with
  | .ok (handlers, _) => handlers
  | .error _ => []

theorem fileHandlers_of_not_opensFile {call : Setup} (h : call.opensFile = false) :
    call.fileHandlers = [] := by
  unfold opensFile at h
  unfold fileHandlers
  cases hopen : Logger.openFile call.files call.file with
  | error e => rfl
  | ok opened => rw [hopen] at h; cases h

theorem fileHandlers_cases (call : Setup) :
    call.fileHandlers = [] ∨ ∃ number, call.fileHandlers = [.file number] := by
  unfold fileHandlers Logger.openFile
  split
  · next handlers files hopen =>
    split at hopen
    · cases hopen
      exact .inl rfl
    · split at hopen
      · dsimp only at hopen
        split at hopen
        · cases hopen
          exact .inr ⟨_, rfl⟩
        · cases hopen
      · cases hopen
  · exact .inl rfl

/-- A call adds handlers unless its level is unknown or the logger is configured.  If the file
cannot be opened, only the one for the console is added. -/
theorem handlers_apply (call : Setup) (logger : Logger) :
    (call.apply logger).handlers = logger.handlers ++
      if call.hasLevel && !logger.configured then .console :: call.fileHandlers else [] := by
  unfold apply Logger.setup hasLevel fileHandlers
  cases levelOf call.level with
  | error e => exact (List.append_nil _).symm
  | ok level =>
    cases hconfigured : logger.configured with
    | true => simp [Except.isOk, Except.toBool]
    | false =>
      cases Logger.openFile call.files call.file with
      | error e => simp [Except.isOk, Except.toBool]
      | ok opened => simp [Except.isOk, Except.toBool]

/-- A call that gets through marks the logger as configured. -/
theorem configured_apply (call : Setup) (logger : Logger) :
    (call.apply logger).configured = (logger.configured || (call.hasLevel && call.opensFile)) := by
  unfold apply Logger.setup hasLevel opensFile
  cases levelOf call.level with
  | error e => simp [Except.isOk, Except.toBool]
  | ok level =>
    cases hconfigured : logger.configured with
    | true => simp
    | false =>
      cases Logger.openFile call.files call.file with
      | error e => simp [Except.isOk, Except.toBool]
      | ok opened => simp [Except.isOk, Except.toBool]

end Setup

/-! ## Any number of calls -/

/-- The logger after several calls, each of which may fail. -/
def setUpAll (calls : List Setup) (logger : Logger) : Logger :=
  calls.foldl (fun logger call => call.apply logger) logger

/-- The calls that add handlers to a logger that is not configured: those with a known level, up to
the first one whose file can be opened. -/
def adding : List Setup → List Setup
  | [] => []
  | call :: rest =>
    if !call.hasLevel then adding rest else if call.opensFile then [call] else call :: adding rest

theorem handlers_setUpAll_of_configured (calls : List Setup) {logger : Logger}
    (h : logger.configured = true) :
    (setUpAll calls logger).handlers = logger.handlers := by
  induction calls generalizing logger with
  | nil => rfl
  | cons call rest ih =>
    have hconfigured : (call.apply logger).configured = true := by
      rw [call.configured_apply, h, Bool.true_or]
    have hhandlers : (call.apply logger).handlers = logger.handlers := by
      simp [call.handlers_apply, h]
    exact (ih hconfigured).trans hhandlers

theorem handlers_setUpAll (calls : List Setup) {logger : Logger} (h : logger.configured = false) :
    (setUpAll calls logger).handlers =
      logger.handlers ++ (adding calls).flatMap fun call => .console :: call.fileHandlers := by
  induction calls generalizing logger with
  | nil => exact (List.append_nil _).symm
  | cons call rest ih =>
    have hhandlers := call.handlers_apply logger
    have hconfigured := call.configured_apply logger
    rw [h] at hhandlers hconfigured
    change (setUpAll rest (call.apply logger)).handlers = _
    rw [adding]
    cases hlevel : call.hasLevel with
    | false =>
      rw [ih (by simp [hconfigured, hlevel])]
      simp [hhandlers, hlevel]
    | true =>
      cases hopens : call.opensFile with
      | true =>
        rw [handlers_setUpAll_of_configured rest (by simp [hconfigured, hlevel, hopens])]
        simp [hhandlers, hlevel]
      | false =>
        rw [ih (by simp [hconfigured, hopens])]
        simp [hhandlers, hlevel]

/-- Every call in `adding` adds one handler for the console. -/
theorem count_console_adding (calls : List Setup) :
    ((adding calls).flatMap fun call => .console :: call.fileHandlers).count .console =
      (adding calls).length := by
  induction adding calls with
  | nil => rfl
  | cons call rest ih =>
    have hfiles : call.fileHandlers.count .console = 0 := by
      obtain hnone | ⟨number, hone⟩ := call.fileHandlers_cases
      · simp [hnone]
      · simp [hone]
    rw [List.flatMap_cons, List.count_append, ih, List.count_cons_self, hfiles, List.length_cons,
      Nat.add_comm, Nat.zero_add]

/-- Only the last call in `adding` can open its file. -/
theorem countP_isFile_adding (calls : List Setup) :
    ((adding calls).flatMap fun call => .console :: call.fileHandlers).countP
      Handler.isFile ≤ 1 := by
  induction calls with
  | nil => exact Nat.zero_le 1
  | cons call rest ih =>
    rw [adding]
    split
    · exact ih
    · split
      · obtain hnone | ⟨number, hone⟩ := call.fileHandlers_cases
        · simp [hnone, Handler.isFile]
        · simp [hone, Handler.isFile]
      · next hopens =>
        rw [List.flatMap_cons, Setup.fileHandlers_of_not_opensFile (Bool.eq_false_iff.2 hopens),
          List.countP_append]
        simpa [Handler.isFile] using ih

/-- The first call with a known level can open its file, or no other such call follows. -/
def FirstOpens (calls : List Setup) : Prop :=
  ∀ first second rest, calls.filter Setup.hasLevel = first :: second :: rest →
    first.opensFile = true

theorem adding_eq_nil_iff {calls : List Setup} :
    adding calls = [] ↔ calls.filter Setup.hasLevel = [] := by
  induction calls with
  | nil => exact Iff.rfl
  | cons call rest ih =>
    rw [adding]
    cases hlevel : call.hasLevel with
    | false => simpa [hlevel] using ih
    | true => cases hopens : call.opensFile <;> simp [hlevel]

theorem length_adding_le_one_iff (calls : List Setup) :
    (adding calls).length ≤ 1 ↔ FirstOpens calls := by
  induction calls with
  | nil => exact iff_of_true (Nat.zero_le 1) fun _ _ _ h => by cases h
  | cons call rest ih =>
    rw [adding, FirstOpens]
    cases hlevel : call.hasLevel with
    | false => simpa [FirstOpens, hlevel] using ih
    | true =>
      rw [List.filter_cons_of_pos hlevel]
      cases hopens : call.opensFile with
      | true =>
        refine iff_of_true (Nat.le_refl 1) fun first second others h => ?_
        rw [← (List.cons.inj h).1, hopens]
      | false =>
        -- A second call with a known level adds its handler for the console to that of the first
        -- one.
        have hrest : (call :: adding rest).length ≤ 1 ↔ rest.filter Setup.hasLevel = [] := by
          rw [← adding_eq_nil_iff, ← List.length_eq_zero_iff, List.length_cons]
          omega
        refine hrest.trans ⟨fun hnone first second others h => ?_, fun h => ?_⟩
        · rw [hnone] at h
          cases h
        · cases hfilter : rest.filter Setup.hasLevel with
          | nil => rfl
          | cons second others =>
            exact absurd (h call second others (by rw [hfilter])) (by simp [hopens])

/-! ## Entries -/

namespace Logger

/-- The handlers that an entry of a level under the name of a logger is passed on to. -/
def receivers (logger : Logger) (name : String) (number : Int) : List Handler :=
  if covers name && logger.isEnabled number then logger.handlers else []

theorem write_eq (logger : Logger) (fs : FileSystem) (name : String) (number : Int)
    (text level : String) :
    logger.write fs name number text level =
      writeLine fs (logger.line name level text) (logger.receivers name number) := by
  unfold write receivers
  split
  · rfl
  · rfl

theorem receivers_sublist (logger : Logger) (name : String) (number : Int) :
    (logger.receivers name number).Sublist logger.handlers := by
  unfold receivers
  split
  · exact .refl _
  · exact List.nil_sublist _

/-- Some entry is passed on to all handlers, however high the level of the logger is. -/
theorem exists_receivers_eq (logger : Logger) :
    ∃ number, logger.receivers packageName number = logger.handlers := by
  have hcovers : covers packageName = true := by decide
  have henabled : logger.isEnabled (max 1 logger.threshold) = true := by
    simp only [isEnabled, Bool.and_eq_true, decide_eq_true_eq]
    omega
  exact ⟨max 1 logger.threshold, by rw [receivers, hcovers, henabled]; rfl⟩

theorem writeLine_eq_self {handlers : List Handler} (h : handlers.countP Handler.isFile = 0)
    (fs : FileSystem) (line : String) : writeLine fs line handlers = fs := by
  induction handlers with
  | nil => rfl
  | cons handler rest ih =>
    cases handler with
    | console => exact ih h
    | file number => simp [Handler.isFile] at h

/-- With at most one handler for a file, a line is written into at most one file, and there once. -/
theorem writeLine_cases {handlers : List Handler} (h : handlers.countP Handler.isFile ≤ 1)
    (fs : FileSystem) (line : String) :
    writeLine fs line handlers = fs ∨ ∃ number, writeLine fs line handlers =
      fs.appendTo number line := by
  induction handlers with
  | nil => exact .inl rfl
  | cons handler rest ih =>
    cases handler with
    | console => exact ih h
    | file number =>
      have hrest : rest.countP Handler.isFile = 0 := by
        rw [List.countP_cons_of_pos rfl] at h
        omega
      exact .inr ⟨number, writeLine_eq_self hrest _ line⟩

theorem forall_receivers_iff (logger : Logger) (handler : Handler) :
    (∀ name number, (logger.receivers name number).count handler ≤ 1) ↔
      logger.handlers.count handler ≤ 1 := by
  constructor
  · intro h
    obtain ⟨number, hnumber⟩ := logger.exists_receivers_eq
    exact hnumber ▸ h packageName number
  · exact fun h name number => Nat.le_trans ((logger.receivers_sublist name number).count_le _) h

end Logger

/-- A logger without handlers that is not configured is set up by any calls, some of which may fail.
Then it has at most one handler for a file, and an entry is written into at most one file, once.  It
has at most one handler for the console, and no entry is printed twice, exactly if the first call
with a known level opens its file, where it asks for one, or no other call with a known level
follows. -/
theorem entries_once_iff (level : Json) (propagates : Bool) (moment : Stamp) (calls : List Setup) :
    let logger := setUpAll calls { level, propagates, moment }
    (logger.handlers.count .console ≤ 1 ↔ FirstOpens calls) ∧
    logger.handlers.countP Handler.isFile ≤ 1 ∧
    ((∀ name number, (logger.receivers name number).count .console ≤ 1) ↔ FirstOpens calls) ∧
    ∀ fs name number text words, logger.write fs name number text words = fs ∨
      ∃ file, logger.write fs name number text words =
        fs.appendTo file (logger.line name words text) := by
  intro logger
  have hhandlers : logger.handlers = (adding calls).flatMap fun call =>
      .console :: call.fileHandlers :=
    handlers_setUpAll calls rfl
  have hconsole : logger.handlers.count .console ≤ 1 ↔ FirstOpens calls := by
    rw [hhandlers, count_console_adding, length_adding_le_one_iff]
  have hfile : logger.handlers.countP Handler.isFile ≤ 1 := by
    rw [hhandlers]
    exact countP_isFile_adding calls
  refine ⟨hconsole, hfile, (logger.forall_receivers_iff .console).trans hconsole,
    fun fs name number text words => ?_⟩
  rw [logger.write_eq]
  exact Logger.writeLine_cases
    (Nat.le_trans (logger.receivers_sublist name number).countP_le hfile) fs _

/-- A call that asks for a file in a directory that is not there. -/
def misplacedFile : Setup where
  file := .str "logs/run.log"

/-- The second attempt adds a second handler for the console, and every entry is printed twice from
then on. -/
theorem misplacedFile_twice_prints_twice :
    ¬(setUpAll [misplacedFile, misplacedFile] {}).handlers.count .console ≤ 1 ∧
    (setUpAll [misplacedFile, misplacedFile] {}).receivers "soia_dart.cli" Level.error.number =
      [.console, .console] := by
  decide

end DartRecords.Log
