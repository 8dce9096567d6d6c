import ShellMetrics.Ledger
import ShellMetrics.Line

/-!
# Function bodies

A reader takes the code lines of a script one by one.  Outside a function a declaration opens a
body, and every other line is bare code.  Inside, every line belongs to the body, also one that
looks like a declaration, and a closing line is the last one of it.  Bodies declared under the
same name are one body.
-/

namespace ShellMetrics

/-- What has been read so far: the bodies by name, and the name of the body that is open. -/
structure Reader where
  bodies : Ledger Text (List Text)
  active : Option Text

namespace Reader

/-- The name under which lines outside every function are kept. -/
def bareCode : Text := "BARE_CODE"

def start : Reader := ⟨∅, none⟩

def feed (reader : Reader) (line : Text) : Reader :=
  match reader.active with
  | some name =>
    { bodies := reader.bodies.push name line
      active := if Line.closes line then none else some name }
  | none =>
    if Line.declares line then { reader with active := some (Line.declaredName line) }
    else { reader with bodies := reader.bodies.push bareCode line }

/-- Reads lines in order. -/
def feedAll (reader : Reader) (lines : List Text) : Reader := lines.foldl feed reader

/-- The states of the reader after each line. -/
def trace (reader : Reader) : List Text → List Reader
  | [] => []
  | line :: rest => reader.feed line :: trace (reader.feed line) rest

end Reader

/-- The bodies of a list of code lines.  A body that is never closed runs to the end. -/
def bodies (lines : List Text) : Ledger Text (List Text) := (Reader.start.feedAll lines).bodies

end ShellMetrics
