import ShellMetrics.Body
import ShellMetrics.Branch
import ShellMetrics.Script

/-!
# Reports

The report of a script has the counts of the whole file and, for each body, its size and
complexity.  Every line of the file is blank, a comment or code.
-/

namespace ShellMetrics

/-- Counts of a whole file. -/
structure FileCounts where
  name : Text
  lines : Int
  code : Int
  comments : Int
  blanks : Int
  functions : Int
  deriving DecidableEq

/-- Size and complexity of one body. -/
structure FunctionCounts where
  name : Text
  code : Int
  complexity : Int
  deriving DecidableEq

def FunctionCounts.qualifiedName (function : FunctionCounts) (script : Text) : Text :=
  function.name ++ '@' :: script

/-- All that is measured in one script. -/
structure Report where
  path : Text
  file : FileCounts
  functions : List FunctionCounts
  deriving DecidableEq

/-- The largest number of a list, zero if there is none. -/
def largest (numbers : List Int) : Int := numbers.max?.getD 0

namespace Script

def blankCount (script : Script) : Nat := script.lines.countP Line.isBlank

def commentCount (script : Script) : Nat :=
  script.lines.zipIdx.countP fun entry ↦ Line.isCommentAt entry.2 entry.1

/-- The number of lines that declare a function, comments among them. -/
def functionCount (script : Script) : Nat := script.lines.countP Line.declares

def fileCounts (script : Script) : FileCounts where
  name := script.name
  lines := script.lines.length
  code := script.lines.length - script.blankCount - script.commentCount
  comments := script.commentCount
  blanks := script.blankCount
  functions := script.functionCount

/-- The bodies of the script's code lines. -/
def functionBodies (script : Script) : Ledger Text (List Text) :=
  bodies (Line.codeLines script.lines)

def functionCounts (script : Script) : List FunctionCounts :=
  script.functionBodies.entries.map fun entry ↦
    { name := entry.1, code := entry.2.length, complexity := Branch.complexity entry.2 }

def report (script : Script) (path : Text) : Report where
  path := path
  file := script.fileCounts
  functions := script.functionCounts

end Script

def Report.maxComplexity (report : Report) : Int := largest (report.functions.map (·.complexity))

end ShellMetrics
