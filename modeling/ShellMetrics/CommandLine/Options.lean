import ShellMetrics.Path
import ShellMetrics.Value

/-!
# Options

What the program is asked to do, after the command line has been read.
-/

namespace ShellMetrics.CommandLine

structure Options where
  paths : List Path
  format : Text
  output : Option Path
  config : Option Path
  failAbove : Option Int
  sortBy : Option Text
  workers : Option Int
  verbose : Bool
  quiet : Bool
  logFile : Option Path

inductive Request where
  | help (text : Text)
  | version
  | analysis (options : Options)

/-- The settings that the options of an analysis put above all others. -/
def Options.overrides (options : Options) : Ledger Text Value :=
  Ledger.ofList (
    (options.workers.map fun n ↦ (Text.lit "workers", Value.whole n)).toList ++
    (options.sortBy.map fun key ↦ (Text.lit "sort_by", Value.text key)).toList ++
    (if options.verbose then [(Text.lit "verbose", Value.flag true)] else []) ++
    (if options.quiet then [(Text.lit "quiet", Value.flag true)] else []))

end ShellMetrics.CommandLine
