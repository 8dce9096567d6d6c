import ShellMetrics.Glob
import ShellMetrics.Script.Load
import ShellMetrics.Text.Lower

/-!
# Finding scripts

A directory is searched for entries first, which takes lookups of its own.  Then every entry is
looked at in order, component by component.  It is a script if it is not hidden, not excluded, a
file, and has one of the extensions, or no suffix and a first line that names a shell.  A path that
is no directory is taken as it is.
-/

namespace ShellMetrics.Discovery

/-- The order of paths: component by component, by code point. -/
def precedes (a b : List Text) : Bool := (compare a b).isLE

/-- Some pattern takes the path.  Patterns after the first that does are not looked at. -/
def isExcludedBy (path : Text) : List Value → Except Fault Bool
  | [] => .ok false
  | .text pattern :: rest =>
    if Glob.accepts pattern path then .ok true else isExcludedBy path rest
  | value :: _ => .error (.patternNotText value.kindName)

def isExcluded (settings : Settings) (path : Path) : Except Fault Bool := do
  isExcludedBy path.toText (← settings.excludePatterns.elements)

def suffixes (settings : Settings) : Except Fault (List Text) := do
  (← settings.extensions.elements).mapM fun value ↦
    match value with
    | .text extension => .ok (Text.lower extension)
    | value => .error (.noStart value.typeName)

/-- The entry that the names lead to from a directory is a script. -/
def isScript (world : World) (settings : Settings) (suffixes : List Text) (root : Path)
    (names : List Text) : Except Fault Bool := do
  let relative : Path := { root := .relative, components := names }
  let path := root.append names
  if !settings.allowHidden.isTruthy && relative.isHidden then return false
  if ← isExcluded settings relative then return false
  if (← world.tree.isLink world.here path) && !settings.followLinks.isTruthy then return false
  if !(← world.tree.isFile world.here path) then return false
  if suffixes.contains (Text.lower path.suffix) then return true
  if path.suffix = [] then Script.hasShebang world path else return false

/-! ## Searching directories -/

/-- What the search makes of an entry of a directory. -/
inductive Visit where
  | pass
  /-- The entry is a directory that is searched too. -/
  | enter
  /-- No entry of the directory from here on is searched. -/
  | halt
  deriving DecidableEq

/-- The path of an entry as the search spells it, behind that of its directory. -/
def spelling (directory : Path) (name : Text) : Text :=
  let text := directory.toText
  (if text.getLast? = some '/' then text else text ++ ['/']) ++ name

/-- Looks at an entry of a directory.  Only links have to be looked up, to see whether they lead to
a directory, although they are not followed even then. -/
def visit (world : World) (directory : Path) (location : Location) (name : Text) :
    Except Fault Visit :=
  match world.tree.lookup (location ++ [name]) with
  | some .directory => .ok .enter
  | some (.link _) =>
    match world.isDirectory (directory.append [name]) with
    | .ok _ => .ok .pass
    | .error (.system .denied _) => .ok .halt
    | .error (.system error _) => .error (.system error (spelling directory name))
    | .error fault => .error fault
  | _ => .ok .pass

/-- What comes of entering those of the entries that the search enters. -/
def descend {α : Type} (visit : Text → Except Fault Visit)
    (enter : Text → Except Fault (List α)) : List Text → Except Fault (List α)
  | [] => .ok []
  | name :: rest => do
    match ← visit name with
    | .halt => return []
    | .pass => descend visit enter rest
    | .enter => return (← enter name) ++ (← descend visit enter rest)

/-- The names that lead to the entries below a directory, where some names lead to the directory
from where the search started.  A directory that may not be listed is taken for an empty one. -/
def search (world : World) (root : Path) : Nat → List Text → Except Fault (List (List Text))
  | 0, _ => .ok []
  | levels + 1, names =>
    match world.list (root.append names) with
    | .error (.system .denied _) => .ok []
    | .error fault => .error fault
    | .ok (location, found) => do
      let below ← descend (visit world (root.append names) location)
        (fun name ↦ search world root levels (names ++ [name])) found
      return found.map (fun name ↦ names ++ [name]) ++ below

/-- More levels than there are in any path that can be opened. -/
def levelLimit : Nat := 2 * FileTree.pathLimit

/-- The names that lead to each entry below a directory, in order; none if it is no directory. -/
def candidates (world : World) (root : Path) : Except Fault (List (List Text)) := do
  if ← world.isDirectory root then
    return (← search world root levelLimit []).eraseDups.mergeSort precedes
  else return []

/-! ## Scripts -/

/-- The scripts below a directory, in order. -/
def scan (world : World) (settings : Settings) (root : Path) : Except Fault (List Path) := do
  let suffixes ← suffixes settings
  let found ← (← candidates world root).filterM (isScript world settings suffixes root)
  return found.map root.append

/-- The scripts that one path stands for. -/
def expand (world : World) (settings : Settings) (path : Path) : Except Fault (List Path) := do
  if ← world.isDirectory path then scan world settings path else return [path]

/-- The scripts that paths stand for, in the order of the paths. -/
def collect (world : World) (settings : Settings) (paths : List Path) :
    Except Fault (List Path) := do
  return (← paths.mapM (expand world settings)).flatten

end ShellMetrics.Discovery
