import ShellMetrics.Fault

/-!
# Output

How output leaves a run: by way of a library that draws tables and reads markup, by standard output,
and as files.  None of these is described here.  What is said of a run holds whatever they make of
the tables and texts they are given.
-/

namespace ShellMetrics

/-- A column of a table: its head, the style of its cells, and whether they are set to the right. -/
structure Column where
  head : Text
  style : Text := []
  isRight : Bool := false
  deriving DecidableEq

/-- A table with a title.  The cells are markup. -/
structure Table where
  title : Text
  style : Text
  columns : List Column
  rows : List (List Text)
  deriving DecidableEq

/-- What becomes of output.  What is printed for a table or a line of markup depends on the width of
the screen and on what it can show. -/
structure Output where
  /-- The markup for a text that is to be shown as it stands. -/
  escape : Text → Text
  /-- Tables one below the other, without colours. -/
  record : List Table → Except Fault Text
  /-- A table as it is printed. -/
  draw : Table → Except Fault Text
  /-- A line of markup as it is printed. -/
  showLine : Text → Except Fault Text
  /-- What standard output has against a text. -/
  refusal? : Text → Option Fault
  /-- What is in the way of writing a text to a file. -/
  obstacle? : Text → Option Fault

namespace Output

/-- A text as it is printed, which is all of it or nothing. -/
def print (output : Output) (text : Text) : Except Fault Text :=
  match output.refusal? text with
  | some fault => .error fault
  | none => .ok text

end Output

end ShellMetrics
