import ShellMetrics.Output
import ShellMetrics.Summary

/-!
# Ruled tables

The report as two tables, one of files and one of functions, and lines about what could not be
read.  Names, paths and reasons are escaped, since the cells and lines are markup.
-/

namespace ShellMetrics.Render.Grid

/-- The style of a number by how bad it is. -/
def styleOf (complexity : Int) : Text :=
  if 20 < complexity then "red bold"
  else if 10 < complexity then "red"
  else if 5 < complexity then "yellow"
  else "green"

/-- A text between a pair of tags. -/
def styled (style text : Text) : Text :=
  '[' :: style ++ ']' :: text ++ Text.lit "[/" ++ style ++ [']']

def numberColumns (heads : List Text) : List Column :=
  heads.map fun head ↦ { head, isRight := true }

def titleStyle : Text := "bold cyan"

def fileTable (output : Output) (summary : Summary) : Table where
  title := "Files"
  style := titleStyle
  columns := { head := "Name", style := "bold" } ::
    numberColumns ["Lines", "Code", "Comments", "Blanks", "Functions"]
  rows := summary.reports.map fun report ↦
    output.escape report.file.name :: [report.file.lines, report.file.code, report.file.comments,
      report.file.blanks, report.file.functions].map Text.ofInt

def functionTable (output : Output) (summary : Summary) (key : SortKey) : Table where
  title := "Functions"
  style := titleStyle
  columns := { head := "Name" } :: numberColumns ["Code", "CCN"]
  rows := (summary.rows key).map fun row ↦
    [output.escape row.qualifiedName, Text.ofInt row.function.code,
      styled (styleOf row.function.complexity) (Text.ofInt row.function.complexity)]

def tables (output : Output) (summary : Summary) (key : SortKey) : List Table :=
  [fileTable output summary, functionTable output summary key]

/-- The line about a path that could not be read.  Path and reason are escaped one by one. -/
def failureLine (output : Output) (failure : Text × Text) : Text :=
  Text.lit "  [red]-[/red] " ++ output.escape failure.1 ++ Text.lit ": " ++
    output.escape failure.2

/-- The paths that could not be read, line by line, nothing if there are none. -/
def failureLines (output : Output) (summary : Summary) : List Text :=
  match summary.failures.entries with
  | [] => []
  | failures =>
    styled "red" (Text.ofNat failures.length ++ Text.lit " file(s) could not be read:") ::
      failures.map (failureLine output)

end ShellMetrics.Render.Grid
