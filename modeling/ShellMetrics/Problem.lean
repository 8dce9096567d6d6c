import ShellMetrics.Ledger
import ShellMetrics.Path

/-!
# Problems

A problem is a failure that the user is told about: a message and, in parentheses, details by
name.  Problems come in a small tree of kinds.
-/

namespace ShellMetrics

inductive ProblemKind where
  | general
  | analysis
  | fileAccess
  | configuration
  | invalidSetting
  deriving DecidableEq

namespace ProblemKind

def label : ProblemKind → Text
  | general => "ShccnError"
  | analysis => "AnalysisError"
  | fileAccess => "FileAccessError"
  | configuration => "ConfigurationError"
  | invalidSetting => "InvalidConfigError"

/-- The kind itself and the kinds it is a case of, the most general one last. -/
def ancestry : ProblemKind → List ProblemKind
  | general => [general]
  | analysis => [analysis, general]
  | fileAccess => [fileAccess, analysis, general]
  | configuration => [configuration, general]
  | invalidSetting => [invalidSetting, configuration, general]

end ProblemKind

/-- A message with details by name. -/
structure Problem where
  kind : ProblemKind
  message : Text
  details : Ledger Text Text

namespace Problem

/-- The message, followed by the details if there are any. -/
def describe (problem : Problem) : Text :=
  match problem.details.entries with
  | [] => problem.message
  | entries =>
    problem.message ++ Text.lit " (" ++
      Text.join ", " (entries.map fun entry ↦ entry.1 ++ '=' :: entry.2) ++ [')']

/-- A script that cannot be read. -/
def fileAccess (path : Path) (reason : Text) : Problem where
  kind := .fileAccess
  message := Text.lit "Cannot access file: " ++ path.toText
  details := Ledger.ofList [("filepath", path.toText), ("reason", reason)]

/-- Settings that cannot be used. -/
def configuration (message : Text) : Problem where
  kind := .configuration
  message := message
  details := ∅

/-- A single setting whose value, as it is shown, cannot be used. -/
def invalidSetting (key shown reason : Text) : Problem where
  kind := .invalidSetting
  message := Text.lit "Invalid configuration for " ++ key ++ Text.lit ": " ++ shown
  details := Ledger.ofList [("key", key), ("value", shown), ("reason", reason)]

end Problem

end ShellMetrics
