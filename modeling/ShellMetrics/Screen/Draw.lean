import ShellMetrics.Output
import ShellMetrics.Screen.Lines
import ShellMetrics.Screen.Markup

/-!
# Tables on a screen

A table has a centred title and a frame of box characters.  Each column is as wide as its longest
cell, before tabs are filled up, with a space on each side.  A cell may take several lines.
-/

namespace ShellMetrics.Screen

/-- A kind of line of the frame: left end, filling, joint and right end. -/
structure Rule where
  left : Char
  fill : Char
  joint : Char
  right : Char

def topRule : Rule := ⟨'┏', '━', '┳', '┓'⟩

def headRule : Rule := ⟨'┡', '━', '╇', '┩'⟩

def bottomRule : Rule := ⟨'└', '─', '┴', '┘'⟩

/-- The characters that end a line when a cell is measured. -/
def endsLine (c : Char) : Bool := [10, 28, 29, 30, 0x85, 0x2028, 0x2029].contains c.toNat

/-- The cells that the longest line of a text takes. -/
def measure (text : Text) : Nat := ((text.splitOnP endsLine).map cells).foldl max 0

/-- The width of each column: its longest cell. -/
def widths (head : List Text) (rows : List (List Text)) : List Nat :=
  rows.foldl (fun widths row ↦ List.zipWith max widths (row.map measure)) (head.map measure)

/-- A line of the frame over columns of the given widths. -/
def Rule.draw (rule : Rule) (widths : List Nat) : Text :=
  rule.left :: Text.join [rule.joint] (widths.map fun width ↦ List.replicate (width + 2) rule.fill)
    ++ [rule.right, '\n']

/-- The spaces that fill a line up to a width. -/
def gap (width : Nat) (line : Text) : Text := List.replicate (width - cells line) ' '

def block (column : Column) (width : Nat) (cell : Text) : List Text :=
  (wrap width cell).map fun line ↦
    if column.isRight then gap width line ++ line else line ++ gap width line

/-- One line of a row between upright bars.  A cell without a line there is blank. -/
def drawLine (bar : Char) (widths : List Nat) (blocks : List (List Text)) (index : Nat) : Text :=
  bar :: Text.join [bar] (List.zipWith (fun width block ↦
    ' ' :: block.getD index (List.replicate width ' ') ++ [' ']) widths blocks) ++ [bar, '\n']

def drawRow (bar : Char) (columns : List Column) (widths : List Nat) (row : List Text) : Text :=
  let blocks := List.zipWith (fun place cell ↦ block place.1 place.2 cell) (columns.zip widths) row
  (List.range ((blocks.map List.length).foldl max 0)).flatMap (drawLine bar widths blocks)

/-- The title centred over `width` characters; an odd space goes to the right. -/
def centred (width : Nat) (title : Text) : Text :=
  List.replicate ((width - title.length) / 2) ' ' ++
    Text.padRight (width - (width - title.length) / 2) title ++ ['\n']

def shownCell (cell : Text) : Except Fault Text := (Markup.render cell).map audible

def draw (table : Table) : Except Fault Text := do
  let head := table.columns.map Column.head
  let rows ← table.rows.mapM fun row ↦ row.mapM shownCell
  let widths := widths head rows
  return centred (widths.foldr (· + ·) 0 + 3 * widths.length + 1) table.title ++
    topRule.draw widths ++ drawRow '┃' table.columns widths head ++ headRule.draw widths ++
    rows.flatMap (drawRow '│' table.columns widths) ++ bottomRule.draw widths

end ShellMetrics.Screen
