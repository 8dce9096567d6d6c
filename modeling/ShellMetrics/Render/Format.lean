import ShellMetrics.Render.Columns
import ShellMetrics.Render.Csv
import ShellMetrics.Render.Grid
import ShellMetrics.Render.Json

/-!
# Report formats

The four formats of a report, by name, as a document and as printed.
-/

namespace ShellMetrics

inductive Format where
  | plain
  | grid
  | json
  | csv
  deriving DecidableEq

namespace Format

def name : Format → Text
  | plain => "text"
  | grid => "rich"
  | json => "json"
  | csv => "csv"

def all : List Format := [plain, grid, json, csv]

def ofName? (text : Text) : Option Format := all.find? (·.name = text)

def document (format : Format) (output : Output) (summary : Summary) (key : SortKey) :
    Except Fault Text :=
  match format with
  | plain => .ok (Render.Columns.render summary key)
  | grid => output.record (Render.Grid.tables output summary key)
  | json => .ok (Render.Json.ofSummary summary key).render
  | csv => .ok (Render.Csv.render summary key)

/-- What is printed one after the other.  A JSON text gets a line end, and the ruled tables are
followed by what could not be read. -/
def pieces (format : Format) (output : Output) (summary : Summary) (key : SortKey) :
    List (Except Fault Text) :=
  match format with
  | plain => [output.print (Render.Columns.render summary key)]
  | grid => (Render.Grid.tables output summary key).map output.draw ++
      (Render.Grid.failureLines output summary).map output.showLine
  | json => [output.print (Render.Json.ofSummary summary key).render, output.print ['\n']]
  | csv => [output.print (Render.Csv.render summary key)]

/-- What is printed up to the first fault, and that fault. -/
def printed : List (Except Fault Text) → Text × Option Fault
  | [] => ([], none)
  | .error fault :: _ => ([], some fault)
  | .ok text :: rest => (text ++ (printed rest).1, (printed rest).2)

def display (format : Format) (output : Output) (summary : Summary) (key : SortKey) :
    Text × Option Fault :=
  printed (format.pieces output summary key)

end Format

end ShellMetrics
