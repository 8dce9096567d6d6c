import ShellMetrics.Encoding.Basic
import ShellMetrics.FileTree

/-!
# The surroundings of a run

All that a run can see of the machine: the files, the working directory, the home directory, the
environment variables, and the codecs for names of encodings that are not known to the program.
-/

namespace ShellMetrics

/-- What a run can see. -/
structure World where
  tree : FileTree
  workDir : Path
  homeDir : Path
  environment : Ledger Text Text
  codecs : Text → Codec := fun _ ↦ .unknown

namespace World

def here (world : World) : Location := world.workDir.components

/-- The absolute path without double dots. -/
def absolute (world : World) (path : Path) : Path :=
  match path.root with
  | .relative => (world.workDir.append path.components).collapse
  | .absolute | .doubled => path.collapse

def exists? (world : World) (path : Path) : Except Fault Bool :=
  world.tree.exists? world.here path

def isDirectory (world : World) (path : Path) : Except Fault Bool :=
  world.tree.isDirectory world.here path

def read (world : World) (path : Path) : Except Fault (List UInt8) :=
  world.tree.read world.here path

def list (world : World) (path : Path) : Except Fault (Location × List Text) :=
  world.tree.list world.here path

end World

end ShellMetrics
