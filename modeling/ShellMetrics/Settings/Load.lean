import ShellMetrics.Number.Numeral
import ShellMetrics.Settings.Basic
import ShellMetrics.Toml.Document
import ShellMetrics.World

/-!
# Sources of settings

Settings come, each overwriting the one before, from the file in the home directory, the file in
the working directory, a file that is named, environment variables, and overrides.  A fault in a
file or in the settings as a whole is reported as a problem of configuration.
-/

namespace ShellMetrics

namespace Overlay

/-! ## Files -/

/-- The two parts of an element in a list of settings. -/
def pairOf (index : Nat) (value : Value) : Except Fault (Value × Value) :=
  match value.elements with
  | .error _ => .error (.notAPair index)
  | .ok [key, value] =>
    match key with
    | .list _ | .table _ => .error (.unhashable key.typeName)
    | key => .ok (key, value)
  | .ok elements => .error (.pairLength index elements.length)

def insert (overlay : Overlay) (key value : Value) : Overlay :=
  match key with
  | .text key => { overlay with entries := overlay.entries.insert key value }
  | _ => { overlay with strayKey := true }

/-- The settings that a value holds: a table, or a list of pairs. -/
def ofValue (value : Value) : Except Fault Overlay :=
  match value with
  | .table entries => .ok (ofEntries entries)
  | value => do
    (← value.elements).zipIdx.foldlM (fun overlay (element, index) ↦ do
      let (key, value) ← pairOf index element
      return overlay.insert key value) empty

/-- The settings of a document: the table for this program among those for tools, or else the
whole document. -/
def ofDocument (entries : Toml.Entries) : Except Fault Overlay :=
  match entries.lookup (Text.lit "tool") with
  | some (.table tools) =>
    match tools.lookup (Text.lit "shccn") with
    | some value => ofValue value
    | none => .ok (ofEntries entries)
  | _ => .ok (ofEntries entries)

def ofFile (world : World) (path : Path) : Except Fault Overlay := do
  ofDocument (← Toml.parseOctets (← world.read path))

/-- A file with a fault in it, by what the file is to the program. -/
def fileProblem (role : Text) (path : Path) (fault : Fault) : Fault :=
  let file := Text.lit "Invalid " ++ role ++ Text.lit " '" ++ path.toText ++ ['\'']
  .reported (.configuration (match fault with
    | .malformedToml => file
    | fault => file ++ Text.lit ": " ++ fault.message))

/-- The settings of a file that need not be there. -/
def ofOptionalFile (world : World) (role : Text) (path : Path) : Except Fault Overlay := do
  if ← world.exists? path then (ofFile world path).mapError (fileProblem role path)
  else return empty

/-- The settings of a file that has to be there. -/
def ofNamedFile (world : World) (path : Path) : Except Fault Overlay := do
  if ← world.exists? path then (ofFile world path).mapError (fileProblem "config file" path)
  else throw (.reported (.configuration (Text.lit "Config file not found: " ++ path.toText)))

/-! ## Environment variables -/

end Overlay

namespace Field

def variableName (field : Field) : Text := Text.lit "SHCCN_" ++ field.key.map Char.toUpper

/-- Reads the value of a field from a variable.  Lists are not read from variables. -/
def readVariable (field : Field) (raw : Text) : Except Fault (Option Value) :=
  match field with
  | extensions | excludePatterns => .ok none
  | allowHidden | followLinks => (Numeral.readFlag raw).map fun value ↦ some (.flag value)
  | encoding | sortBy | verbosity => .ok (some (.text raw))
  | maxSize => (Numeral.readFloat raw).map fun value ↦ some (.real value)
  | workers => (Numeral.readInt raw).map fun value ↦ some (.whole value)

/-- The value that the environment gives to a field. -/
def fromVariables (field : Field) (environment : Ledger Text Text) :
    Except Fault (Option Value) :=
  match environment.find? field.variableName with
  | none => .ok none
  | some raw => (field.readVariable raw).mapError fun fault ↦
    .reported (.invalidSetting field.variableName raw fault.message)

end Field

namespace Overlay

/-- The settings of the environment, read in the order of the fields. -/
def ofVariables (environment : Ledger Text Text) : Except Fault Overlay :=
  Field.all.foldlM (fun overlay field ↦ do
    match ← field.fromVariables environment with
    | some value => return overlay.insert (.text field.key) value
    | none => return overlay) empty

/-! ## Overrides -/

/-- Turns a flag of the overrides into a verbosity if it is set, and drops it. -/
def applyFlag (flag : Text) (verbosity : Verbosity) (overrides : Ledger Text Value) :
    Ledger Text Value :=
  match overrides.find? flag with
  | none => overrides
  | some value =>
    (if value.isTruthy then overrides.insert Field.verbosity.key (.text verbosity.word)
      else overrides).erase flag

/-- The settings of overrides, with the flags for the verbosity. -/
def ofOverrides (overrides : Ledger Text Value) : Overlay :=
  ⟨applyFlag "quiet" .quiet (applyFlag "verbose" .verbose overrides), false⟩

end Overlay

namespace Settings

/-- The name of the files that settings are read from without being named. -/
def fileName : Text := "shccn.toml"

def homeFile (world : World) : Path := world.homeDir.append ['.' :: fileName]

def workFile (world : World) : Path := world.workDir.append [fileName]

/-- All that is said about the settings, each source overwriting the ones before. -/
def gather (world : World) (file : Option Path) (overrides : Ledger Text Value) :
    Except Fault Overlay := do
  let home ← Overlay.ofOptionalFile world "global config" (homeFile world)
  let work ← Overlay.ofOptionalFile world "project config" (workFile world)
  let named ← match file with
    | some path => Overlay.ofNamedFile world path
    | none => pure .empty
  let environment ← Overlay.ofVariables world.environment
  return (((home.update work).update named).update environment).update
    (Overlay.ofOverrides overrides)

/-- Reports a fault in the settings as a whole.  A value of the wrong type among the extensions is
not caught. -/
def settingsProblem : Fault → Fault
  | .noStart type => .noStart type
  | fault => .reported (.configuration (Text.lit "Invalid configuration: " ++ fault.message))

def load (world : World) (file : Option Path) (overrides : Ledger Text Value) :
    Except Fault Settings := do
  (ofOverlay (← gather world file overrides)).mapError settingsProblem

end Settings

end ShellMetrics
