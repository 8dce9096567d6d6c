import ShellMetrics.Text.Basic

/-!
# Scripts

A script has a name and its physical lines, without line ends.
-/

namespace ShellMetrics

/-- A named list of lines. -/
structure Script where
  name : Text
  lines : List Text

namespace Script

/-- The line without one carriage return at its end. -/
def dropReturn (line : Text) : Text :=
  if line.getLast? = some '\r' then line.dropLast else line

/-- The physical lines of a text.  A newline ends a line, one carriage return before it is
dropped, and a newline at the very end starts no further line. -/
def splitLines (content : Text) : List Text :=
  let pieces := content.splitOn '\n'
  (if pieces.getLast? = some [] then pieces.dropLast else pieces).map dropReturn

end Script

end ShellMetrics
