import ShellMetrics.CommandLine.Arguments
import ShellMetrics.CommandLine.Options
import ShellMetrics.Number.Count
import ShellMetrics.World

/-!
# Requests

One of the ways in which the command line can be read.  Help and version go before all else, so that
the values of other options are not looked at.  Nothing that is proved about runs depends on it.
-/

namespace ShellMetrics.CommandLine

namespace Request

/-- Reads a number that has to be in a range. -/
def number (switch : Switch) (inRange : Int → Bool) (text : Text) : Except UsageError Int :=
  match Numeral.readCount? text with
  | none => .error (.notAnInteger switch text)
  | some number => if inRange number then .ok number else .error (.outOfRange switch number)

/-- The path of a file that may be missing but must neither be a directory nor unreadable. -/
def filePath (world : World) (switch : Switch) (text : Text) : Except UsageError Path :=
  match world.tree.resolve world.here true (.ofText text) with
  | .ok (_, some .directory) => .error (.isDirectory switch text)
  | .ok (location, some _) =>
    if world.tree.allows .read location then .ok (.ofText text)
    else .error (.notReadable switch text)
  | _ => .ok (.ofText text)

def presentFilePath (world : World) (switch : Switch) (text : Text) : Except UsageError Path :=
  match world.tree.entryAt world.here true (.ofText text) with
  | .error _ => .error (.noSuchFile switch text)
  | .ok _ => filePath world switch text

def defaultFormat : Text := "text"

/-- The most workers that can be asked for. -/
def mostWorkers : Int := 32

/-- The value of an option, checked if it was given. -/
def checked {α : Type} (given : Given) (switch : Switch)
    (check : Switch → Text → Except UsageError α) : Except UsageError (Option α) :=
  (given.value? switch).mapM (check switch)

def analysisOf (world : World) (given : Given) : Except UsageError Request := do
  if given.positional = [] then throw .noPaths
  let output ← checked given .output (filePath world)
  let config ← checked given .config (presentFilePath world)
  let failAbove ← checked given .failAbove fun switch ↦ number switch (1 ≤ ·)
  let workers ← checked given .workers fun switch ↦
    number switch fun n ↦ 1 ≤ n && n ≤ mostWorkers
  let logFile ← checked given .logFile (filePath world)
  return .analysis {
    paths := given.positional.map .ofText
    format := (given.value? .format).getD defaultFormat
    output
    config
    failAbove
    sortBy := given.value? .sort
    workers
    verbose := given.has .verbose
    quiet := given.has .quiet
    logFile }

def usageText : Text := "Usage: shccn [OPTIONS] PATHS...\n"

/-- The first of the options that go before all others. -/
def urgent? (given : Given) : Option Request :=
  given.settings.findSome? fun setting ↦
    match setting.1 with
    | .help => some (help usageText)
    | .version => some version
    | _ => none

def read (world : World) (arguments : List Text) : Except UsageError Request := do
  if arguments = [] then throw .noArguments
  let given ← Given.ofArguments arguments
  match urgent? given with
  | some request => return request
  | none => analysisOf world given

end Request

end ShellMetrics.CommandLine
