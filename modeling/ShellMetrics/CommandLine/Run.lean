import ShellMetrics.Analysis.Logged
import ShellMetrics.CommandLine.Options
import ShellMetrics.Render.Format
import ShellMetrics.Settings.Load

/-!
# Running the program

A run takes the world, the options and the time to an exit code, what was printed, and the world
afterwards.  The exit code is zero if the report was delivered in full, no script failed to load,
and no function is more complex than allowed.  How the command line is read into options and what
becomes of output is not part of the program.
-/

namespace ShellMetrics.CommandLine

/-- What a run leaves behind. -/
structure Outcome where
  exitCode : Nat
  stdout : Text
  /-- What is put on standard error. -/
  console : List Notice
  world : World
  /-- A fault that nothing in the program deals with. -/
  escaped : Option Fault

namespace Outcome

def success : Nat := 0

def failure : Nat := 1

/-- The exit code of a run that was not called properly. -/
def misuse : Nat := 2

def exit (state : Logging) (stdout : Text) (exitCode : Nat) : Outcome where
  exitCode
  stdout
  console := state.console
  world := state.world
  escaped := none

/-- The run is cut short by a fault. -/
def escape (state : Logging) (fault : Fault) : Outcome where
  exitCode := failure
  stdout := []
  console := state.console
  world := state.world
  escaped := some fault

end Outcome

def versionText : Text := "shccn version 0.1.0\n"

def tell (state : Logging) (label text : Text) : Logging := state.print (.message label text)

def settingsRecord (settings : Settings) : Record where
  source := Logger.rootName
  level := 10
  message := Text.lit "Loaded config: " ++ settings.display

def failureRecord (message : Text) : Record where
  source := Logger.rootName
  level := 40
  message

/-- Ends a run before there is anything to log. -/
def refuse (world : World) (reason : Text) : Outcome :=
  Outcome.exit (tell { logger := .start, world } "Error:" reason) [] Outcome.failure

/-- Logs a fault and tells the user.  For a fault that was not expected the console of a verbose
run also has a trace. -/
def reportFault (stamp : Text) (settings : Settings) (state : Logging) (fault : Fault) : Logging :=
  match fault with
  | .reported problem =>
    let record := failureRecord (problem.kind.label ++ Text.lit ": " ++ problem.describe)
    tell (state.log stamp record) "Error:" problem.describe
  | .system error path =>
    tell (state.log stamp (failureRecord "Could not write report")) "Error:" (error.describe path)
  | fault =>
    let record := failureRecord "Unexpected error during analysis"
    let told := tell (state.log stamp record) "Unexpected error:" fault.message
    if settings.verbosity = .verbose then told.print (.trace fault) else told

/-- What has come of delivering a report: what has been printed, the state afterwards, and the
fault that stopped it, if there was one. -/
structure Delivery where
  stdout : Text
  state : Logging
  fault : Option Fault

/-- Writes a text to a file.  If the text cannot be written, the file has still been opened, which
leaves it empty. -/
def writeText (output : Output) (world : World) (path : Path) (text : Text) :
    World × Option Fault :=
  let obstacle := output.obstacle? text
  let content := if obstacle.isSome then [] else Utf8.encode text
  match world.tree.write world.here path content with
  | .ok tree => ({ world with tree }, obstacle)
  | .error fault => (world, some fault)

/-- Delivers the report: to a file, which is mentioned on the console unless the run is quiet, or
to standard output. -/
def deliver (output : Output) (options : Options) (format : Format) (settings : Settings)
    (summary : Summary) (state : Logging) : Delivery :=
  match options.output with
  | none =>
    let (stdout, fault) := format.display output summary settings.sortBy
    { stdout, state, fault }
  | some path =>
    match format.document output summary settings.sortBy with
    | .error fault => { stdout := [], state, fault := some fault }
    | .ok document =>
      let (world, fault) := writeText output state.world path document
      let written := { state with world }
      let isTold := fault.isNone && settings.verbosity ≠ .quiet
      { stdout := []
        state := if isTold then tell written "Report written to" path.toText else written
        fault }

/-- Ends a run whose report has been delivered. -/
def conclude (options : Options) (settings : Settings) (summary : Summary) (stdout : Text)
    (state : Logging) : Outcome :=
  match options.failAbove.filter (· < summary.maxComplexity) with
  | some limit =>
    let told := if settings.verbosity = .quiet then state
      else tell state "FAIL:" (Text.lit "Max CCN " ++ Text.ofInt summary.maxComplexity ++
        Text.lit " exceeds threshold " ++ Text.ofInt limit)
    Outcome.exit told stdout Outcome.failure
  | none =>
    Outcome.exit state stdout (if summary.ok then Outcome.success else Outcome.failure)

def report (output : Output) (stamp : Text) (options : Options) (format : Format)
    (settings : Settings) (summary : Summary) (state : Logging) : Outcome :=
  let delivery := deliver output options format settings summary state
  match delivery.fault with
  | some fault =>
    Outcome.exit (reportFault stamp settings delivery.state fault) delivery.stdout Outcome.failure
  | none => conclude options settings summary delivery.stdout delivery.state

def analyzeAndReport (output : Output) (stamp : Text) (options : Options) (format : Format)
    (settings : Settings) (state : Logging) : Outcome :=
  match Analysis.analyzeLogged stamp settings options.paths state with
  | (.error fault, state) =>
    Outcome.exit (reportFault stamp settings state fault) [] Outcome.failure
  | (.ok summary, state) => report output stamp options format settings summary state

/-- Loads the settings, sets up logging and goes on with the analysis.  Settings that cannot be
shown cannot be logged either, at any verbosity. -/
def runAnalysis (output : Output) (stamp : Text) (world : World) (options : Options) : Outcome :=
  if options.verbose && options.quiet then
    refuse world "--verbose and --quiet are mutually exclusive"
  else
    match Format.ofName? options.format with
    | none =>
      refuse world (Text.lit "--format must be one of: " ++
        Text.join ", " (Format.all.map Format.name))
    | some format =>
      match Settings.load world options.config options.overrides with
      | .error (.reported problem) => refuse world problem.describe
      | .error fault => Outcome.escape { logger := .start, world } fault
      | .ok settings =>
        let start : Logging := { logger := .start, world }
        match start.setup settings.verbosity.word options.logFile with
        | (.error fault, state) => Outcome.escape state fault
        | (.ok (), state) =>
          if settings.isShowable then
            analyzeAndReport output stamp options format settings
              (state.log stamp (settingsRecord settings))
          else Outcome.escape state .numberTooLong

/-- Runs the program, given how its command line is read.  A command line that cannot be read has a
message. -/
def run (parse : World → List Text → Except Text Request) (output : Output) (stamp : Text)
    (world : World) (arguments : List Text) : Outcome :=
  let start : Logging := { logger := .start, world }
  match parse world arguments with
  | .error message => Outcome.exit (tell start "Error:" message) [] Outcome.misuse
  | .ok (.help text) => Outcome.exit start text Outcome.success
  | .ok .version => Outcome.exit start versionText Outcome.success
  | .ok (.analysis options) => runAnalysis output stamp world options

end ShellMetrics.CommandLine
