import ShellMetrics.Ledger
import ShellMetrics.Report

/-!
# Summaries

A summary has the reports of all scripts that could be read, and the reason for each path that
could not.  Its rows are the functions of all reports, in file order or by size.
-/

namespace ShellMetrics

inductive SortKey where
  | name
  | complexity
  | code
  deriving DecidableEq

namespace SortKey

def word : SortKey → Text
  | name => "name"
  | complexity => "ccn"
  | code => "code"

def all : List SortKey := [name, complexity, code]

def ofWord? (text : Text) : Option SortKey := all.find? (·.word = text)

/-- The order that a word names; any other text stands for file order. -/
def ofText (text : Text) : SortKey := (ofWord? text).getD name

end SortKey

/-- The reports of the scripts that were read and the reasons of those that were not. -/
structure Summary where
  reports : List Report
  failures : Ledger Text Text

/-- A function together with the report it belongs to. -/
structure Row where
  report : Report
  function : FunctionCounts
  deriving DecidableEq

namespace Row

def qualifiedName (row : Row) : Text := row.function.qualifiedName row.report.file.name

end Row

namespace Summary

def ok (summary : Summary) : Bool := summary.failures.entries.isEmpty

def maxComplexity (summary : Summary) : Int := largest (summary.reports.map (·.maxComplexity))

/-- The functions of all reports in file order. -/
def fileRows (summary : Summary) : List Row :=
  summary.reports.flatMap fun report ↦ report.functions.map fun function ↦ ⟨report, function⟩

/-- The rows in the order asked for.  The sorted orders go down, and rows that are equal in the
key stay in file order. -/
def rows (summary : Summary) (key : SortKey) : List Row :=
  match key with
  | .name => summary.fileRows
  | .complexity =>
    summary.fileRows.mergeSort fun a b ↦ b.function.complexity ≤ a.function.complexity
  | .code => summary.fileRows.mergeSort fun a b ↦ b.function.code ≤ a.function.code

end Summary

end ShellMetrics
