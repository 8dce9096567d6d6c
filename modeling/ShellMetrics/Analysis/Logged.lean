import ShellMetrics.Analysis
import ShellMetrics.Log

/-!
# Analysis with a log

What an analysis logs: how many scripts it found below each directory, how many there are in all,
each script it loaded, and at the end each script it could not read.  If a fault ends the analysis,
the records up to that point have been logged.
-/

namespace ShellMetrics.Analysis

/-! ## Records -/

def fileSource : Text := "shccn.file_ops"

def analysisSource : Text := "shccn.api"

/-- How many scripts were found below a directory. -/
def foundRecord (path : Path) (count : Nat) : Record where
  source := fileSource
  level := 10
  message := Text.lit "Found " ++ Text.ofNat count ++ Text.lit " scripts under " ++ path.toText

/-- The records of collecting scripts, up to the first fault. -/
def collectRecords (world : World) (settings : Settings) : List Path → List Record
  | [] => []
  | path :: rest =>
    match world.isDirectory path with
    | .error _ => []
    | .ok false => collectRecords world settings rest
    | .ok true =>
      match Discovery.scan world settings path with
      | .error _ => []
      | .ok found => foundRecord path found.length :: collectRecords world settings rest

/-- How many scripts are analyzed. -/
def countRecord (count : Nat) : Record where
  source := analysisSource
  level := 10
  message := Text.lit "Analyzing " ++ Text.ofNat count ++ Text.lit " scripts"

/-- How many lines of a script were loaded. -/
def loadRecord (path : Path) (count : Nat) : Record where
  source := fileSource
  level := 10
  message := Text.lit "Loaded " ++ path.toText ++ Text.lit " (" ++ Text.ofNat count ++
    Text.lit " lines)"

def loadRecords (world : World) (settings : Settings) (path : Path) : List Record :=
  match Script.load world settings path with
  | .ok script => [loadRecord path script.lines.length]
  | .error _ => []

/-- A script that was not read. -/
def skipRecord (path : Path) (reason : Text) : Record where
  source := analysisSource
  level := 30
  message := Text.lit "Skipping " ++ path.toText ++ Text.lit ": " ++ reason

def skipRecords (entries : List (Path × Outcome)) : List Record :=
  entries.filterMap fun (path, outcome) ↦
    match outcome with
    | .report _ => none
    | .failure reason => some (skipRecord path reason)

/-! ## Logging on the way -/

/-- Looks at scripts one after the other.  Each of them is looked at in the world that the records
before it have left behind, since the log itself can be one of the scripts. -/
def loadLogged (stamp : Text) (settings : Settings) :
    List Path → Logging → Except Fault (List Outcome) × Logging
  | [], state => (.ok [], state)
  | path :: rest, state =>
    match outcome state.world settings path with
    | .error fault => (.error fault, state)
    | .ok first =>
      let (others, state) := loadLogged stamp settings rest
        (state.logAll stamp (loadRecords state.world settings path))
      (others.map (first :: ·), state)

/-- What comes of all scripts, with what is logged on the way.  A pool looks at all of them in the
same world. -/
def outcomesLogged (stamp : Text) (settings : Settings) (scripts : List Path) (state : Logging) :
    Except Fault (List Outcome) × Logging :=
  if isPooled settings scripts then
    (outcomes state.world settings scripts (List.range scripts.length),
      state.logAll stamp (scripts.flatMap (loadRecords state.world settings)))
  else loadLogged stamp settings scripts state

/-- Analyzes scripts and directories of scripts, and logs what it does. -/
def analyzeLogged (stamp : Text) (settings : Settings) (paths : List Path) (state : Logging) :
    Except Fault Summary × Logging :=
  let collected := state.logAll stamp (collectRecords state.world settings paths)
  match Discovery.collect state.world settings paths with
  | .error fault => (.error fault, collected)
  | .ok scripts =>
    match outcomesLogged stamp settings scripts
        (collected.log stamp (countRecord scripts.length)) with
    | (.error fault, state) => (.error fault, state)
    | (.ok outcomes, state) =>
      let entries := scripts.zip outcomes
      (.ok (summarize entries), state.logAll stamp (skipRecords entries))

end ShellMetrics.Analysis
