import ShellMetrics.Discovery
import ShellMetrics.Pool
import ShellMetrics.Report

/-!
# Analysis

An analysis collects the scripts that paths stand for and reports on each of them.  A script that
cannot be read is put down with the reason and disturbs no other.  With more than one worker and
enough scripts the work is done by a pool.
-/

namespace ShellMetrics.Analysis

def analyzeFile (world : World) (settings : Settings) (path : Path) : Except Fault Report := do
  return (← Script.load world settings path).report path.toText

/-- What comes of one script: a report, or the reason why there is none. -/
inductive Outcome where
  | report (report : Report)
  | failure (reason : Text)

def reason? : Fault → Option Text
  | .reported problem =>
    if problem.kind = .fileAccess then problem.details.find? "reason" else none
  | _ => none

/-- What comes of one script.  Faults other than problems with the file are passed on. -/
def outcome (world : World) (settings : Settings) (path : Path) : Except Fault Outcome :=
  match analyzeFile world settings path with
  | .ok report => .ok (.report report)
  | .error fault =>
    match reason? fault with
    | some reason => .ok (.failure reason)
    | none => .error fault

/-- The summary with one more outcome. -/
def addOutcome (summary : Summary) (entry : Path × Outcome) : Summary :=
  match entry.2 with
  | .report report => { summary with reports := summary.reports ++ [report] }
  | .failure reason =>
    { summary with failures := summary.failures.insert entry.1.toText reason }

/-- The summary of the outcomes, in order. -/
def summarize (outcomes : List (Path × Outcome)) : Summary :=
  outcomes.foldl addOutcome { reports := [], failures := ∅ }

/-- With fewer scripts than this a pool is not worth while. -/
def poolThreshold : Nat := 8

/-- The scripts are given to a pool. -/
def isPooled (settings : Settings) (scripts : List Path) : Bool :=
  settings.isParallel && poolThreshold ≤ scripts.length

/-- What comes of all scripts, given the order in which a pool would finish them. -/
def outcomes (world : World) (settings : Settings) (scripts : List Path) (order : List Nat) :
    Except Fault (List Outcome) :=
  let work := outcome world settings
  (if isPooled settings scripts then Pool.run work scripts order else scripts.map work).mapM id

/-- Analyzes scripts that a pool would finish in an order that depends on their number. -/
def analyzeIn (schedule : Nat → List Nat) (world : World) (settings : Settings)
    (paths : List Path) : Except Fault Summary := do
  let scripts ← Discovery.collect world settings paths
  let outcomes ← outcomes world settings scripts (schedule scripts.length)
  return summarize (scripts.zip outcomes)

def analyze (world : World) (settings : Settings) (paths : List Path) : Except Fault Summary :=
  analyzeIn List.range world settings paths

end ShellMetrics.Analysis
