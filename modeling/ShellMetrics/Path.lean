import ShellMetrics.Text.Basic

/-!
# Paths

A path is a root and a list of components.  Empty components and single dots are dropped when a
path is read, double dots are kept.  Exactly two slashes at the start are a root of their own.
-/

namespace ShellMetrics

/-- Where a path starts. -/
inductive Root where
  | relative
  | absolute
  | doubled
  deriving DecidableEq

def Root.text : Root → Text
  | relative => []
  | absolute => "/"
  | doubled => "//"

/-- A root and the components below it. -/
structure Path where
  root : Root
  components : List Text
  deriving DecidableEq

namespace Path

def rootOf : Text → Root
  | '/' :: '/' :: '/' :: _ => .absolute
  | '/' :: '/' :: _ => .doubled
  | '/' :: _ => .absolute
  | _ => .relative

def ofText (text : Text) : Path where
  root := rootOf text
  components := (text.splitOn '/').filter fun part ↦ part ≠ [] && part ≠ ['.']

/-- The path as text; a path with nothing in it is a single dot. -/
def toText (path : Path) : Text :=
  match path.root.text ++ Text.join ['/'] path.components with
  | [] => "."
  | text => text

def parts (path : Path) : List Text :=
  match path.root with
  | .relative => path.components
  | root => root.text :: path.components

/-- The last component, empty if there is none. -/
def name (path : Path) : Text := path.components.getLast?.getD []

/-- The end of a name from its last dot on.  A dot at either end of the name starts no suffix. -/
def suffixOf (name : Text) : Text :=
  let tail := name.reverse.takeWhile (· ≠ '.')
  if tail = [] || name.length ≤ tail.length + 1 then [] else '.' :: tail.reverse

def suffix (path : Path) : Text := suffixOf path.name

/-- The path with further components below it. -/
def append (path : Path) (components : List Text) : Path :=
  { path with components := path.components ++ components }

/-- The path without double dots, each of which takes away the component before it. -/
def collapse (path : Path) : Path :=
  { path with
    components := (path.components.foldl (fun kept component ↦
      if component = ['.', '.'] then kept.drop 1 else component :: kept) []).reverse }

/-- Some part starts with a dot. -/
def isHidden (path : Path) : Bool := path.parts.any fun part ↦ part.head? = some '.'

end Path

end ShellMetrics
