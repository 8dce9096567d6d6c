import ShellMetrics.CommandLine.Request
import ShellMetrics.CommandLine.Run
import ShellMetrics.Proofs.LogFiles
import ShellMetrics.Proofs.Rows
import ShellMetrics.Screen.Wide

/-!
# The exit code of a run

A run of an analysis ends with success if its report is delivered, every script could be read and
no function is more complex than allowed.  It fails otherwise.  The report is there whenever it has
been delivered, whatever the exit code is, and a run that has no report to deliver has written
nothing but its log.  How the command line is read and what becomes of output plays no part in this.
-/

namespace ShellMetrics

open Fallible FileTree

/-! ## Formats -/

namespace Format

variable {format : Format} {output : Output} {summary : Summary} {key : SortKey}

end Format

namespace CommandLine

open Logging

variable {output : Output} {stamp : Text} {world : World} {options : Options}

/-! ## The course of a run -/

/-- The course of a run up to the end of its analysis: no options exclude each other, the format is
one of the four, the settings are loaded, the log is opened, the settings are put down in it, and
the analysis comes to an end. -/
structure Analyzed (stamp : Text) (world : World) (options : Options) where
  format : Format
  settings : Settings
  opened : Logging
  summary : Summary
  analyzed : Logging
  not_both : (options.verbose && options.quiet) = false
  format_name : options.format = format.name
  load_eq : Settings.load world options.config options.overrides = .ok settings
  setup_eq : Logging.setup { logger := .start, world } settings.verbosity.word options.logFile =
    (.ok (), opened)
  isShowable : settings.isShowable = true
  analyze_eq : Analysis.analyzeLogged stamp settings options.paths
    (opened.log stamp (settingsRecord settings)) = (.ok summary, analyzed)

def Analyzed.start (run : Analyzed stamp world options) : Logging :=
  run.opened.log stamp (settingsRecord run.settings)

/-- What comes of delivering the report of a run. -/
def Analyzed.delivery (output : Output) (run : Analyzed stamp world options) : Delivery :=
  deliver output options run.format run.settings run.summary run.analyzed

end CommandLine

end ShellMetrics
