import Std.Time
import ShellMetrics.CommandLine.Request
import ShellMetrics.CommandLine.Run
import ShellMetrics.Screen.Wide

/-!
# The program

The only module that talks to the machine.  It takes a picture of the files that the arguments
name, runs on the picture, prints, and writes the files that the run has changed.
-/

namespace ShellMetrics.Main

/-- The picture with a symbolic link, and where it leads.  A link that leads nowhere is left out,
and one that cannot be followed for another reason leads to itself. -/
def captureLink (tree : FileTree) (path : Path) : IO (FileTree × Option Path) := do
  let file := (← IO.currentDir) / String.ofList path.toText
  match ← file.metadata.toBaseIO with
  | .ok _ =>
    let target := (← IO.FS.realPath file).toString.toList
    return (tree.insert path.components (.link target), some (.ofText target))
  | .error (.noFileOrDirectory ..) => return (tree, none)
  | .error _ => return (tree.insert path.components (.link path.toText), none)

/-- The picture with what stands at an absolute path and the directories above it. -/
partial def captureEntry (tree : FileTree) (path : Path) : IO FileTree := do
  if (tree.lookup path.components).isSome then return tree
  let tree ← captureEntry tree { path with components := path.components.dropLast }
  let file := (← IO.currentDir) / String.ofList path.toText
  match ← file.symlinkMetadata.toBaseIO with
  | .error _ => return tree
  | .ok status =>
    match status.type with
    | .symlink =>
      match ← captureLink tree path with
      | (tree, some target) => captureEntry tree target
      | (tree, none) => return tree
    | .dir => return tree.insert path.components .directory
    | _ =>
      match ← (IO.FS.readBinFile file).toBaseIO with
      | .ok content => return tree.insert path.components (.file content.toList)
      | .error _ => return (tree.insert path.components (.file [])).deny .read path.components

/-- The picture with a directory and all that stands below it. -/
partial def captureBelow (tree : FileTree) (path : Path) : IO FileTree := do
  let mut tree ← captureEntry tree path
  unless tree.lookup path.components == some .directory do return tree
  let directory := (← IO.currentDir) / String.ofList path.toText
  match ← directory.readDir.toBaseIO with
  | .error _ => return tree.deny .read path.components
  | .ok entries =>
    for entry in entries do
      tree ← captureBelow tree (path.append [entry.fileName.toList])
    return tree

/-- The picture with a path that may stand for a directory of scripts. -/
def captureScripts (tree : FileTree) (path : Path) : IO FileTree := do
  let tree ← captureEntry tree path
  match ← (IO.FS.realPath (String.ofList path.toText)).toBaseIO with
  | .ok target => captureBelow tree (.ofText target.toString.toList)
  | .error _ => return tree

def readVariables : IO (Ledger Text Text) := do
  let found ← Field.all.filterMapM fun field ↦ do
    let name := field.variableName
    return (← IO.getEnv (String.ofList name)).map fun value ↦ (name, value.toList)
  return Ledger.ofList found

/-- All that the arguments let a run see. -/
def observe (arguments : List Text) : IO World := do
  let workDir := Path.ofText (← IO.currentDir).toString.toList
  let homeDir := Path.ofText ((← IO.getEnv "HOME").getD "/").toList
  let blank : World := { tree := .empty, workDir, homeDir, environment := ← readVariables }
  let given := (CommandLine.Given.ofArguments arguments).toOption.getD ⟨[], []⟩
  let single := [workDir, Settings.homeFile blank, Settings.workFile blank] ++
    given.settings.map fun setting ↦ blank.absolute (.ofText setting.2)
  let tree ← single.foldlM captureEntry blank.tree
  let scripts := given.positional.map fun argument ↦ blank.absolute (.ofText argument)
  return { blank with tree := ← scripts.foldlM captureScripts tree }

/-- Writes the files that a run has changed. -/
def commit (before after : FileTree) : IO Unit :=
  after.entries.entries.forM fun (location, entry) ↦ do
    match entry with
    | .file content =>
      unless before.lookup location == some entry do
        IO.FS.writeBinFile (String.ofList (Path.toText ⟨.absolute, location⟩))
          ⟨content.toArray⟩
    | _ => return

/-- The time of day as it stands in a log. -/
def readClock : IO Text :=
  return ((← Std.Time.PlainDateTime.now).format "uuuu-MM-dd HH:mm:ss").toList

end ShellMetrics.Main

open ShellMetrics in
def main (arguments : List String) : IO UInt32 := do
  let arguments := arguments.map String.toList
  let world ← Main.observe arguments
  let parse (world : World) (arguments : List Text) :=
    (CommandLine.Request.read world arguments).mapError CommandLine.UsageError.message
  let outcome := CommandLine.run parse Screen.wide (← Main.readClock) world arguments
  IO.print (String.ofList outcome.stdout)
  for line in outcome.console.flatMap Notice.lines do IO.eprintln (String.ofList line)
  if let some fault := outcome.escaped then
    IO.eprintln (String.ofList (fault.label ++ Text.lit ": " ++ fault.message))
  Main.commit world.tree outcome.world.tree
  return outcome.exitCode.toUInt32
