import ShellMetrics.Encoding.Utf8
import ShellMetrics.Fault

/-!
# File trees

A file tree says what stands at each location and what a run may do there.  A location is the list
of names on the way from the top, so what stands below a directory are the locations that extend
its own, and a symbolic link has nothing below it.  A path is resolved name by name, which takes
leave to search every directory on the way.  Links are followed, at most forty of them.
-/

namespace ShellMetrics

/-- The names on the way from the top of the tree. -/
abbrev Location := List Text

/-- What stands at a location. -/
inductive Entry where
  | file (content : List UInt8)
  | directory
  | link (target : Text)
  deriving DecidableEq

namespace Entry

def isDirectory : Entry → Bool
  | directory => true
  | _ => false

def isFile : Entry → Bool
  | file _ => true
  | _ => false

def isLink : Entry → Bool
  | link _ => true
  | _ => false

/-- The size that is told for an entry. -/
def size : Entry → Nat
  | file content => content.length
  | directory => 4096
  | link target => (Utf8.encode target).length

end Entry

/-- What a run needs leave for: to look up names in a directory, to read a file or list a directory,
and to change a file or create one in a directory. -/
inductive Access where
  | search
  | read
  | write
  deriving DecidableEq

/-- What stands where, and what a run may do there.  The top itself is always a directory. -/
structure FileTree where
  entries : Ledger Location Entry
  allows : Access → Location → Bool := fun _ _ ↦ true

namespace FileTree

def linkLimit : Nat := 40

/-- The most octets of a name. -/
def nameLimit : Nat := 255

/-- The most octets of a path. -/
def pathLimit : Nat := 4095

def lookup (tree : FileTree) (location : Location) : Option Entry :=
  if location = [] then some .directory else tree.entries.find? location

/-- Where a path leads: a location, and what stands there if it is not a free place in a
directory. -/
abbrev Target := Except SystemError (Location × Option Entry)

/-- The names of a link's target.  A slash at the end asks for a directory, as a dot does. -/
def targetNames (target : Text) : List Text :=
  (target.splitOn '/').filter (· ≠ []) ++ if target.getLast? = some '/' then [['.']] else []

/-- Follows names from a location.  A link is handed over, together with the names that are left,
unless it comes last and is asked for itself. -/
def walkFrom (tree : FileTree) (follow : Bool) (onLink : Location → List Text → Target) :
    Location → List Text → Target
  | here, [] => .ok (here, tree.lookup here)
  | here, name :: rest =>
    if tree.lookup here ≠ some .directory then .error .notDirectory
    else if !tree.allows .search here then .error .denied
    else if name = ['.'] then walkFrom tree follow onLink here rest
    else if name = ['.', '.'] then walkFrom tree follow onLink here.dropLast rest
    else if nameLimit < (Utf8.encode name).length then .error .nameTooLong
    else
      match tree.lookup (here ++ [name]) with
      | none => if rest = [] then .ok (here ++ [name], none) else .error .missing
      | some (.link target) =>
        if rest = [] && !follow then .ok (here ++ [name], some (.link target))
        else onLink (if target.head? = some '/' then [] else here) (targetNames target ++ rest)
      | some _ => walkFrom tree follow onLink (here ++ [name]) rest

/-- Follows names from a location, through at most so many links. -/
def walk (tree : FileTree) (follow : Bool) : Nat → Location → List Text → Target
  | 0 => walkFrom tree follow fun _ _ ↦ .error .tooManyLinks
  | links + 1 => walkFrom tree follow (walk tree follow links)

/-- Where a path leads.  Relative paths start at the working directory. -/
def resolve (tree : FileTree) (workDir : Location) (follow : Bool) (path : Path) :
    Except Fault (Location × Option Entry) :=
  let text := path.toText
  if text.contains '\x00' then .error .nullInPath
  else if pathLimit < (Utf8.encode text).length then .error (.system .nameTooLong text)
  else
    let start := match path.root with
      | .relative => workDir
      | .absolute | .doubled => []
    (tree.walk follow linkLimit start path.components).mapError (.system · text)

/-- What stands at the end of a path. -/
def entryAt (tree : FileTree) (workDir : Location) (follow : Bool) (path : Path) :
    Except Fault Entry := do
  match ← tree.resolve workDir follow path with
  | (_, some entry) => .ok entry
  | (_, none) => .error (.system .missing path.toText)

/-- Stops unless the run has leave. -/
def demand (tree : FileTree) (access : Access) (location : Location) (path : Path) :
    Except Fault Unit :=
  if tree.allows access location then .ok () else .error (.system .denied path.toText)

/-- A fault that only says that there is nothing at the end of a path. -/
def meansAbsent : Fault → Bool
  | .system .missing _ | .system .notDirectory _ | .system .tooManyLinks _ | .nullInPath => true
  | _ => false

/-- Whether what stands at the end of a path is of some kind.  Nothing is of no kind. -/
def holds (tree : FileTree) (workDir : Location) (follow : Bool) (kind : Entry → Bool)
    (path : Path) : Except Fault Bool :=
  match tree.entryAt workDir follow path with
  | .ok entry => .ok (kind entry)
  | .error fault => if meansAbsent fault then .ok false else .error fault

def isDirectory (tree : FileTree) (workDir : Location) (path : Path) : Except Fault Bool :=
  tree.holds workDir true Entry.isDirectory path

def isFile (tree : FileTree) (workDir : Location) (path : Path) : Except Fault Bool :=
  tree.holds workDir true Entry.isFile path

/-- The path itself names a link, whether or not the link leads somewhere. -/
def isLink (tree : FileTree) (workDir : Location) (path : Path) : Except Fault Bool :=
  tree.holds workDir false Entry.isLink path

def exists? (tree : FileTree) (workDir : Location) (path : Path) : Except Fault Bool :=
  tree.holds workDir true (fun _ ↦ true) path

/-- The content of the file at the end of a path.  A directory may be opened like a file, and only
then turns out to be none. -/
def read (tree : FileTree) (workDir : Location) (path : Path) : Except Fault (List UInt8) := do
  match ← tree.resolve workDir true path with
  | (_, none) => .error (.system .missing path.toText)
  | (location, some entry) =>
    tree.demand .read location path
    match entry with
    | .file content => .ok content
    | _ => .error (.system .isDirectory path.toText)

/-- The names that stand for a directory itself and for the one above it. -/
def isDots (name : Text) : Bool := name = ['.'] || name = ['.', '.']

/-- The names of the entries of a directory, in the order in which it lists them. -/
def names (tree : FileTree) (location : Location) : List Text :=
  (tree.entries.keys.filter fun other ↦ other.dropLast = location).filterMap fun other ↦
    other.getLast?.filter (!isDots ·)

/-- Where the directory at the end of a path stands, and the names in it. -/
def list (tree : FileTree) (workDir : Location) (path : Path) :
    Except Fault (Location × List Text) := do
  match ← tree.resolve workDir true path with
  | (_, none) => .error (.system .missing path.toText)
  | (location, some .directory) =>
    tree.demand .read location path
    return (location, tree.names location)
  | (_, some _) => .error (.system .notDirectory path.toText)

def insert (tree : FileTree) (location : Location) (entry : Entry) : FileTree :=
  { tree with entries := tree.entries.insert location entry }

/-- The file at the end of a path after its content, empty if there was none, has been replaced. -/
def updateFile (tree : FileTree) (workDir : Location) (path : Path)
    (change : List UInt8 → List UInt8) : Except Fault FileTree := do
  match ← tree.resolve workDir true path with
  | (location, none) =>
    tree.demand .write location.dropLast path
    return tree.insert location (.file (change []))
  | (location, some (.file content)) =>
    tree.demand .write location path
    return tree.insert location (.file (change content))
  | (_, some _) => .error (.system .isDirectory path.toText)

def write (tree : FileTree) (workDir : Location) (path : Path) (content : List UInt8) :
    Except Fault FileTree :=
  tree.updateFile workDir path fun _ ↦ content

def append (tree : FileTree) (workDir : Location) (path : Path) (content : List UInt8) :
    Except Fault FileTree :=
  tree.updateFile workDir path (· ++ content)

/-- Creates the directories of a path that are missing. -/
def makeDirectories (tree : FileTree) (workDir : Location) (path : Path) :
    Except Fault FileTree :=
  (List.range path.components.length).foldlM (fun tree count ↦ do
    let part := { path with components := path.components.take (count + 1) }
    match ← tree.resolve workDir true part with
    | (location, none) => .ok (tree.insert location .directory)
    | (_, some _) => .ok tree) tree

/-- Puts an entry at the end of a path, with the directories on the way to it. -/
def place (tree : FileTree) (workDir : Location) (path : Path) (entry : Entry) :
    Except Fault FileTree := do
  let tree ← tree.makeDirectories workDir { path with components := path.components.dropLast }
  match entry with
  | .file content => tree.write workDir path content
  | .directory => tree.makeDirectories workDir path
  | .link target =>
    let (location, _) ← tree.resolve workDir false path
    return tree.insert location (.link target)

def empty : FileTree where
  entries := ∅

def deny (tree : FileTree) (access : Access) (location : Location) : FileTree :=
  { tree with
    allows := fun other place ↦
      (other ≠ access || place ≠ location) && tree.allows other place }

end FileTree

end ShellMetrics
