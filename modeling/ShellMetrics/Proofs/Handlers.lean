import ShellMetrics.Log
import ShellMetrics.Proofs.Fallible

/-!
# Handlers of a logger

In one process a logger is set up again and again, and some of these calls fail.  A call with an
unknown verbosity changes nothing.  Every other call drops the handlers that were there, and only
then is the log file opened.  So there are never two handlers of one kind, what is installed is
open and what has been dropped is closed, but a call that fails on its log file has cost the
logger the handlers that it had.
-/

namespace ShellMetrics

open Fallible

def Handler.isConsole (handler : Handler) : Bool :=
  match handler.sink with
  | .console _ => true
  | .file _ => false

namespace Logger

/-! ## Handlers in the place of others -/

/-- Where all handlers that a logger has had write to, in the order in which they were installed.
Those that it has dropped come first. -/
def history (logger : Logger) : List Sink := (logger.dropped ++ logger.handlers).map Handler.sink

/-- There is at most one handler of each kind, the handlers are open, and those that have been
dropped are closed. -/
structure IsSound (logger : Logger) : Prop where
  consoles : logger.handlers.countP Handler.isConsole ≤ 1
  files : logger.handlers.countP (!Handler.isConsole ·) ≤ 1
  isOpen : ∀ handler ∈ logger.handlers, handler.isOpen = true
  isClosed : ∀ handler ∈ logger.dropped, handler.isOpen = false

/-- The logger with new handlers in the place of those that it had. -/
def renew (logger : Logger) (sinks : List Sink) : Logger := sinks.foldl install logger.dropAll

variable {logger : Logger}

theorem foldl_install (sinks : List Sink) :
    sinks.foldl install logger =
      { logger with handlers := logger.handlers ++ sinks.map (⟨·, true⟩) } := by
  induction sinks generalizing logger with
  | nil => simp
  | cons sink sinks ih => simp [ih, install]

@[simp] theorem handlers_renew (sinks : List Sink) :
    (logger.renew sinks).handlers = sinks.map (⟨·, true⟩) := by
  rw [renew, foldl_install]
  rfl

@[simp] theorem dropped_renew (sinks : List Sink) :
    (logger.renew sinks).dropped =
      logger.dropped ++ logger.handlers.map ({ · with isOpen := false }) := by
  rw [renew, foldl_install]
  rfl

@[simp] theorem level_renew (sinks : List Sink) : (logger.renew sinks).level = logger.level := by
  rw [renew, foldl_install]
  rfl

/-- Handlers that are dropped are still known. -/
theorem history_renew (sinks : List Sink) :
    (logger.renew sinks).history = logger.history ++ sinks := by
  simp [history, Function.comp_def]

/-- What is put in the place of other handlers is new, so the logger has changed. -/
theorem renew_ne_self {sinks : List Sink} (h : sinks ≠ []) : logger.renew sinks ≠ logger := by
  intro heq
  have hhistory := congrArg history heq
  rw [history_renew] at hhistory
  exact h (List.append_right_eq_self.1 hhistory)

/-- A console, and a file if there is one. -/
theorem IsSound.renew (h : logger.IsSound) (detailed : Bool) (path : Option Path) :
    (logger.renew (.console detailed :: path.toList.map .file)).IsSound where
  consoles := by cases path <;> simp [Handler.isConsole, List.countP_cons]
  files := by cases path <;> simp [Handler.isConsole]
  isOpen := by simp
  isClosed := by
    intro handler hhandler
    rw [dropped_renew, List.mem_append, List.mem_map] at hhandler
    rcases hhandler with hdropped | ⟨installed, -, rfl⟩
    · exact h.isClosed handler hdropped
    · rfl

end Logger

namespace Logging

/-! ## One call -/

variable {start state next : Logging} {word : Text} {file : Option Path}

/-- A log file is opened for records to be added to it. -/
def openLog (state : Logging) (path : Path) : Except Fault FileTree :=
  state.world.tree.append state.world.here (state.world.absolute path) []

def sinksFor (state : Logging) (verbosity : Verbosity) (file : Option Path) : List Sink :=
  .console (verbosity == .verbose) :: (file.map state.world.absolute).toList.map .file

/-- What a call ends in and the logger that it leaves. -/
inductive SetsUp (state : Logging) (word : Text) (file : Option Path) :
    Except Fault Unit → Logger → Prop
  | unknown (hword : Verbosity.ofWord? word = none) :
    SetsUp state word file (.error .unknownLogVerbosity) state.logger
  | unopened {verbosity : Verbosity} {path : Path} {fault : Fault}
    (hword : Verbosity.ofWord? word = some verbosity) (hfile : file = some path)
    (hopen : state.openLog path = .error fault) :
    SetsUp state word file (.error fault) (state.logger.renew (state.sinksFor verbosity none))
  | opened {verbosity : Verbosity} (hword : Verbosity.ofWord? word = some verbosity)
    (hopen : ∀ path ∈ file, ∃ tree, state.openLog path = .ok tree) :
    SetsUp state word file (.ok ())
      { state.logger.renew (state.sinksFor verbosity file) with
        level := some (Logger.levelOf verbosity) }

theorem openFile_eq (state : Logging) (path : Path) :
    state.openFile path = (state.openLog path).map fun tree ↦
      { state with
        logger := state.logger.install (.file (state.world.absolute path))
        world := { state.world with tree } } := by
  unfold openFile openLog
  dsimp only
  cases state.world.tree.append state.world.here (state.world.absolute path) [] <;> rfl

/-- A call ends in one of the ways described. -/
theorem setsUp_setup (state : Logging) (word : Text) (file : Option Path) :
    SetsUp state word file (state.setup word file).1 (state.setup word file).2.logger := by
  unfold setup
  cases hword : Verbosity.ofWord? word with
  | none => exact .unknown hword
  | some verbosity =>
    cases file with
    | none => exact .opened hword nofun
    | some path =>
      -- The world is the same when the file is opened as it was before the call.
      have hopenFile := openFile_eq { state with
        logger := state.logger.dropAll.install (.console (verbosity == .verbose)) } path
      change _ = (state.openLog path).map _ at hopenFile
      dsimp only
      rw [hopenFile]
      cases hopen : state.openLog path with
      | error fault => exact .unopened hword rfl hopen
      | ok tree =>
        refine .opened hword fun other hother ↦ ?_
        obtain rfl := Option.some.inj hother
        exact ⟨tree, hopen⟩

/-- One call leaves the handlers sound, whether or not it succeeds. -/
theorem SetsUp.isSound {ending : Except Fault Unit} {logger : Logger}
    (h : SetsUp state word file ending logger) (hsound : state.logger.IsSound) :
    logger.IsSound := by
  cases h with
  | unknown => exact hsound
  | unopened => exact hsound.renew _ none
  | opened =>
    have hrenew := hsound.renew
    exact ⟨(hrenew _ _).consoles, (hrenew _ _).files, (hrenew _ _).isOpen, (hrenew _ _).isClosed⟩

/-- One call forgets no handler. -/
theorem SetsUp.history_grows {ending : Except Fault Unit} {logger : Logger}
    (h : SetsUp state word file ending logger) : state.logger.history <+: logger.history := by
  have hrenew (sinks : List Sink) :
      state.logger.history <+: (state.logger.renew sinks).history := by
    rw [Logger.history_renew]
    exact List.prefix_append _ _
  cases h with
  | unknown => exact List.prefix_rfl
  | unopened => exact hrenew _
  | opened => exact hrenew _

/-! ## Whole processes -/

/-- The states that a process comes to.  The logger is set up, with success or not, and anything
else that happens between these calls, as records and changes of files, leaves it alone. -/
inductive Reaches (start : Logging) : Logging → Prop
  | refl : Reaches start start
  | setup {state : Logging} (h : Reaches start state) (word : Text) (file : Option Path) :
    Reaches start (state.setup word file).2
  | between {state next : Logging} (h : Reaches start state)
    (hlogger : next.logger = state.logger) : Reaches start next

/-- The handlers stay sound over all calls, by induction on the calls. -/
theorem Reaches.isSound (h : Reaches start state) (hstart : start.logger.IsSound) :
    state.logger.IsSound := by
  induction h with
  | refl => exact hstart
  | setup _ word file ih => exact (setsUp_setup _ word file).isSound ih
  | between _ hlogger ih => exact hlogger ▸ ih

theorem Reaches.history_grows (h : Reaches start state) :
    start.logger.history <+: state.logger.history := by
  induction h with
  | refl => exact List.prefix_rfl
  | setup _ word file ih => exact ih.trans (setsUp_setup _ word file).history_grows
  | between _ hlogger ih => exact hlogger ▸ ih

/-- In a process that starts with a logger without handlers there is never more than one handler of
each kind, the handlers are open, and those that have been dropped are closed.  No handler is lost:
all that were ever installed keep their place in the history.  A call that succeeds leaves a console
and after it the file of this call, if it names one, and the level of its own verbosity. -/
theorem Reaches.handlers_sound (hhandlers : start.logger.handlers = [])
    (hdropped : start.logger.dropped = []) (h : Reaches start state) :
    state.logger.IsSound ∧
      (∀ next, Reaches state next → state.logger.history <+: next.logger.history) ∧
      ∀ word file, (state.setup word file).1 = .ok () →
        ∃ verbosity, Verbosity.ofWord? word = some verbosity ∧
          (state.setup word file).2.logger.handlers =
            ⟨.console (verbosity == .verbose), true⟩ ::
              file.toList.map (fun path ↦ ⟨.file (state.world.absolute path), true⟩) ∧
          (state.setup word file).2.logger.level = some (Logger.levelOf verbosity) := by
  have hstart : start.logger.IsSound := by
    constructor <;> simp [hhandlers, hdropped]
  refine ⟨h.isSound hstart, fun next hnext ↦ hnext.history_grows, ?_⟩
  intro word file hok
  have hsetsUp := setsUp_setup state word file
  rw [hok] at hsetsUp
  generalize (state.setup word file).2.logger = logger at hsetsUp
  cases hsetsUp with
  | @opened verbosity hword hopen =>
    refine ⟨verbosity, hword, ?_, rfl⟩
    change (state.logger.renew _).handlers = _
    rw [Logger.handlers_renew, sinksFor]
    cases file <;> rfl

/-- A record leaves the handlers alone. -/
theorem logger_log (state : Logging) (stamp : Text) (record : Record) :
    (state.log stamp record).logger = state.logger := by
  unfold log
  split
  · refine List.foldlRecOn (motive := fun reached : Logging ↦ reached.logger = state.logger)
      _ _ rfl ?_
    intro reached hreached handler _
    unfold deliver
    split
    · exact hreached
    · dsimp only
      split <;> exact hreached
  · rfl

/-- A call that succeeds after one with an unknown verbosity, one whose log file cannot be opened,
and a record. -/
theorem handlers_sound_after_failures :
    let world : World :=
      { tree := .empty, workDir := Path.ofText "/", homeDir := Path.ofText "/", environment := ∅ }
    let start : Logging := { logger := .start, world }
    let first := (start.setup "normal" (some (Path.ofText "a.log"))).2
    let second := (first.setup "loud" none).2
    let third := (second.setup "quiet" (some (Path.ofText "d/b.log"))).2
    let fourth := third.log "2000-01-01 00:00:00" ⟨"shccn", 30, "record"⟩
    let file := some (Path.ofText "c.log")
    fourth.logger.handlers = [⟨.console false, true⟩] ∧
      (fourth.setup "verbose" file).1 = .ok () ∧
      (fourth.setup "verbose" file).2.logger.handlers =
        [⟨.console true, true⟩, ⟨.file (Path.ofText "/c.log"), true⟩] ∧
      (fourth.setup "verbose" file).2.logger.level = some 10 := by
  intro world start first second third fourth file
  have hfirst : Reaches start first := .setup .refl _ _
  have hsecond : Reaches start second := .setup hfirst _ _
  have hthird : Reaches start third := .setup hsecond _ _
  have hfourth : Reaches start fourth := .between hthird (logger_log third _ _)
  have hsound := hfourth.handlers_sound rfl rfl
  have hreturns : (fourth.setup "verbose" file).1.toOption.isSome = true := by decide +kernel
  obtain ⟨done, hok⟩ := exists_eq_ok_of_isSome_toOption hreturns
  obtain ⟨verbosity, hword, hhandlers, hlevel⟩ := hsound.2.2 _ _ hok
  have hverbose : Verbosity.ofWord? "verbose" = some .verbose := by decide
  rw [hverbose] at hword
  obtain rfl := Option.some.inj hword
  refine ⟨by decide +kernel, hok, hhandlers.trans ?_, hlevel⟩
  decide +kernel

/-! ## Calls that fail -/

/-- A call that fails leaves the logger as it was if and only if the verbosity is unknown.
Otherwise it is the log file that cannot be opened, and at that point the earlier handlers have been
closed and dropped, with nothing but a new console in their place, while the level is still the old
one. -/
theorem setup_keeps_logger_iff {state : Logging} {word : Text} {file : Option Path} {fault : Fault}
    (h : (state.setup word file).1 = .error fault) :
    ((state.setup word file).2.logger = state.logger ↔ Verbosity.ofWord? word = none) ∧
      (Verbosity.ofWord? word = none → fault = .unknownLogVerbosity) ∧
      ∀ verbosity, Verbosity.ofWord? word = some verbosity →
        (∃ path ∈ file, state.openLog path = .error fault) ∧
          (state.setup word file).2.logger.handlers =
            [⟨.console (verbosity == .verbose), true⟩] ∧
          (state.setup word file).2.logger.dropped = state.logger.dropped ++
            state.logger.handlers.map ({ · with isOpen := false }) ∧
          (state.setup word file).2.logger.level = state.logger.level := by
  have hsetsUp := setsUp_setup state word file
  rw [h] at hsetsUp
  generalize (state.setup word file).2.logger = logger at hsetsUp
  cases hsetsUp with
  | unknown hword => simp [hword]
  | @unopened verbosity path _ hword hfile hopen =>
    have hchanged : state.logger.renew [.console (verbosity == .verbose)] ≠ state.logger :=
      Logger.renew_ne_self (List.cons_ne_nil _ _)
    refine ⟨by simp [hword, sinksFor, hchanged], by simp [hword], ?_⟩
    intro other hother
    obtain rfl := Option.some.inj (hword.symm.trans hother)
    exact ⟨⟨path, hfile, hopen⟩, by simp [sinksFor], by simp, by simp⟩

/-- The first call has a log.  The second has an unknown verbosity and leaves the logger as it is,
the third cannot open its log file. -/
theorem setup_keeps_logger_of_loud :
    let world : World :=
      { tree := .empty, workDir := Path.ofText "/", homeDir := Path.ofText "/", environment := ∅ }
    let start : Logging := { logger := .start, world }
    let first := (start.setup "normal" (some (Path.ofText "a.log"))).2
    let file := some (Path.ofText "d/b.log")
    (∃ fault, (first.setup "loud" none).1 = .error fault) ∧
      (first.setup "loud" none).2.logger = first.logger ∧
      (∃ fault, (first.setup "quiet" file).1 = .error fault) ∧
      (first.setup "quiet" file).2.logger ≠ first.logger := by
  intro world start first file
  have hloudNone : (first.setup "loud" none).1.toOption = none := by decide +kernel
  have hquietNone : (first.setup "quiet" file).1.toOption = none := by decide +kernel
  obtain ⟨fault, hloud⟩ := exists_eq_error_of_toOption_eq_none hloudNone
  obtain ⟨fault', hquiet⟩ := exists_eq_error_of_toOption_eq_none hquietNone
  refine ⟨⟨fault, hloud⟩, ?_, ⟨fault', hquiet⟩, ?_⟩
  · exact (setup_keeps_logger_iff hloud).1.2 (by decide)
  · exact fun hsame ↦ absurd ((setup_keeps_logger_iff hquiet).1.1 hsame) (by decide)

/-- A logger with a console and a log file has lost both after a call whose log file cannot be
opened.  All that is left is a new console. -/
theorem setup_drops_open_log :
    let world : World :=
      { tree := .empty, workDir := Path.ofText "/", homeDir := Path.ofText "/", environment := ∅ }
    let start : Logging := { logger := .start, world }
    let first := (start.setup "normal" (some (Path.ofText "a.log"))).2
    let failed := first.setup "normal" (some (Path.ofText "d/b.log"))
    Reaches start first ∧ (∃ fault, failed.1 = .error fault) ∧
      first.logger.handlers =
        [⟨.console false, true⟩, ⟨.file (Path.ofText "/a.log"), true⟩] ∧
      failed.2.logger.handlers = [⟨.console false, true⟩] ∧
      failed.2.logger.dropped =
        [⟨.console false, false⟩, ⟨.file (Path.ofText "/a.log"), false⟩] := by
  intro world start first failed
  have hfirst : Reaches start first := .setup .refl _ _
  have hnone : failed.1.toOption = none := by decide +kernel
  exact ⟨hfirst, exists_eq_error_of_toOption_eq_none hnone, by decide +kernel, by decide +kernel,
    by decide +kernel⟩

end Logging

end ShellMetrics
