import ShellMetrics.Screen.Cells
import ShellMetrics.Text.Space

/-!
# Lines on a screen

What a text looks like on a screen.  Characters that only move the cursor are left out, tabs
are filled up with spaces, and a line that is too long for its place is wrapped between words and
cut with an ellipsis where a single word is too long.
-/

namespace ShellMetrics.Screen

def isSilent (c : Char) : Bool := [7, 8, 11, 12, 13].contains c.toNat

/-- The text without the characters that are never printed. -/
def audible (text : Text) : Text := text.filter (!isSilent ·)

def tabWidth : Nat := 8

/-- The line with spaces for tabs, given the column it starts in. -/
def expandTabs : Nat → Text → Text
  | _, [] => []
  | column, c :: rest =>
    if c = '\t' then
      List.replicate (tabWidth - column % tabWidth) ' ' ++ expandTabs 0 rest
    else c :: expandTabs (column + cellsOf c) rest

def lines (text : Text) : List Text := ((audible text).splitOn '\n').map (expandTabs 0)

/-! ## Wrapping -/

/-- Splits a line into words.  White space belongs to the word before it, and at the start of the
line to the first word.  The flag says that the word just read has ended in white space. -/
def wordsFrom : Bool → Text → Text → List Text
  | _, word, [] => if word = [] then [] else [word.reverse]
  | ended, word, c :: rest =>
    if Text.isSpace c then wordsFrom (word.any (!Text.isSpace ·)) (c :: word) rest
    else if ended then word.reverse :: wordsFrom false [c] rest
    else wordsFrom false (c :: word) rest

def words (line : Text) : List Text := wordsFrom false [] line

def trimEnd (text : Text) : Text := (text.reverse.dropWhile Text.isSpace).reverse

/-- Fills lines with words, given the line that is being filled.  A word that fits on no line
stands on a line of its own. -/
def fill (width : Nat) : Text → List Text → List Text
  | line, [] => [line]
  | line, word :: rest =>
    if cells line + cells (trimEnd word) ≤ width || line = [] then
      fill width (line ++ word) rest
    else line :: fill width word rest

/-- Drops white space at the end of a line as far as it sticks out. -/
def trimExcess (width : Nat) (line : Text) : Text :=
  line.take (max (trimEnd line).length (min width line.length))

/-- Cuts a line that is too long, with an ellipsis at the end. -/
def cut (width : Nat) (line : Text) : Text :=
  if width < cells line then fit (width - 1) line ++ ['…'] else line

def wrap (width : Nat) (text : Text) : List Text :=
  (lines text).flatMap fun line ↦
    (fill width [] (words line)).map fun part ↦ cut width (trimExcess width part)

end ShellMetrics.Screen
