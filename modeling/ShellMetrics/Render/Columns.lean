import ShellMetrics.Summary

/-!
# Plain columns

The plain report has two blocks of fixed columns, one row for each file and one row for each
function.  A name is set to the left, a number to the right, and what is too long for its column
pushes the rest of the row.
-/

namespace ShellMetrics.Render.Columns

/-- The line that separates the parts of a block. -/
def separator : Text := List.replicate 80 '-' ++ ['\n']

/-- A row: the first cell to the left in `first` characters, the others to the right in `other`
characters each, with one space between cells. -/
def row (first other : Nat) (name : Text) (cells : List Text) : Text :=
  Text.padRight first name ++ cells.flatMap (fun cell ↦ ' ' :: Text.padLeft other cell) ++ ['\n']

def fileRow : Text → List Text → Text := row 20 10

def functionRow : Text → List Text → Text := row 30 20

def fileHeader : Text :=
  separator ++ fileRow "Name" ["Lines", "Code", "Comments", "Blanks", "Functions"] ++ separator

def functionHeader : Text := separator ++ functionRow "Name" ["Code", "CCN"] ++ separator

def ofFile (file : FileCounts) : Text :=
  fileRow file.name
    ([file.lines, file.code, file.comments, file.blanks, file.functions].map Text.ofInt)

def ofRow (entry : Row) : Text :=
  functionRow entry.qualifiedName ([entry.function.code, entry.function.complexity].map Text.ofInt)

def render (summary : Summary) (key : SortKey) : Text :=
  fileHeader ++ summary.reports.flatMap (ofFile ·.file) ++ separator ++
    functionHeader ++ (summary.rows key).flatMap ofRow ++ separator

end ShellMetrics.Render.Columns
