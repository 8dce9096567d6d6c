import ShellMetrics.Settings.Quantity
import ShellMetrics.Summary

/-!
# Settings

The settings of a run, by field.  They are built from an overlay, which gives values to some of
the fields, and the defaults for the others.  The values are checked one after the other, and the
first that does not fit is the fault that is reported.  Patterns, flags and the encoding are
taken as they are, and only a use of them shows whether they fit.
-/

namespace ShellMetrics

/-- How much is said. -/
inductive Verbosity where
  | quiet
  | normal
  | verbose
  deriving DecidableEq

namespace Verbosity

def word : Verbosity → Text
  | quiet => "quiet"
  | normal => "normal"
  | verbose => "verbose"

def all : List Verbosity := [quiet, normal, verbose]

def ofWord? (text : Text) : Option Verbosity := all.find? (·.word = text)

end Verbosity

inductive Field where
  | extensions
  | excludePatterns
  | allowHidden
  | followLinks
  | encoding
  | maxSize
  | workers
  | sortBy
  | verbosity
  deriving DecidableEq

namespace Field

def key : Field → Text
  | extensions => "extensions"
  | excludePatterns => "exclude_patterns"
  | allowHidden => "allow_hidden_files"
  | followLinks => "follow_symlinks"
  | encoding => "encoding"
  | maxSize => "max_file_size_mb"
  | workers => "workers"
  | sortBy => "sort_by"
  | verbosity => "verbosity"

def all : List Field :=
  [extensions, excludePatterns, allowHidden, followLinks, encoding, maxSize, workers, sortBy,
    verbosity]

def ofKey? (text : Text) : Option Field := all.find? (·.key = text)

def defaultValue : Field → Value
  | extensions => .list [.text ".sh", .text ".bash", .text ".ksh", .text ".zsh"]
  | excludePatterns =>
    .list [.text ".git/*", .text "node_modules/*", .text "vendor/*", .text "venv/*",
      .text ".venv/*", .text ".tox/*"]
  | allowHidden => .flag false
  | followLinks => .flag false
  | encoding => .text "utf-8"
  | maxSize => .real (.ofDecimal false 10 0)
  | workers => .nothing
  | sortBy => .text SortKey.name.word
  | verbosity => .text Verbosity.normal.word

end Field

/-- Values for some keys, and whether there was a key that is not a text. -/
structure Overlay where
  entries : Ledger Text Value
  strayKey : Bool

namespace Overlay

def empty : Overlay := ⟨∅, false⟩

/-- Values for keys that are all texts. -/
def ofEntries (entries : List (Text × Value)) : Overlay := ⟨Ledger.ofList entries, false⟩

/-- The first overlay overwritten by the second. -/
def update (first second : Overlay) : Overlay :=
  ⟨first.entries.update second.entries, first.strayKey || second.strayKey⟩

def get (overlay : Overlay) (field : Field) : Value :=
  (overlay.entries.find? field.key).getD field.defaultValue

/-- A key that is no field: the one name that is taken, or an unknown one. -/
def keyFault (key : Text) : Option Fault :=
  if (Field.ofKey? key).isSome then none
  else if key = Text.lit "self" then some .reservedSetting
  else some (.unknownSetting key)

/-- Every key is a text and the key of a field.  The first one that is not is reported. -/
def checkKeys (overlay : Overlay) : Except Fault Unit :=
  if overlay.strayKey then .error .keyNotText
  else
    match overlay.entries.keys.findSome? keyFault with
    | some fault => .error fault
    | none => .ok ()

end Overlay

structure Settings where
  extensions : Value
  excludePatterns : Value
  allowHidden : Value
  followLinks : Value
  encoding : Value
  maxSize : Quantity
  workers : Option Quantity
  sortBy : SortKey
  verbosity : Verbosity

namespace Settings

/-! ## Checks -/

/-- An extension is a text that starts with a dot. -/
def checkExtension : Value → Except Fault Unit
  | .text extension =>
    if extension.head? = some '.' then .ok () else .error (.extensionWithoutDot extension)
  | value => .error (.noStart value.typeName)

/-- There is at least one extension, and each starts with a dot. -/
def checkExtensions (value : Value) : Except Fault Unit := do
  if !value.isTruthy then throw .noExtensions
  (← value.elements).forM checkExtension

def checkSize (value : Value) : Except Fault Quantity :=
  match Quantity.ofValue? value with
  | none => .error (.notOrdered "<=" value.typeName)
  | some size => if size.atMost 0 then .error .sizeNotPositive else .ok size

def checkWorkers (value : Value) : Except Fault (Option Quantity) :=
  match value with
  | .nothing => .ok none
  | value =>
    match Quantity.ofValue? value with
    | none => .error (.notOrdered "<" value.typeName)
    | some workers => if workers.below 1 then .error .tooFewWorkers else .ok (some workers)

/-- The word that a value is, if it is a text. -/
def wordOf? : Value → Option Text
  | .text word => some word
  | _ => none

def checkSortKey (value : Value) : Except Fault SortKey :=
  match wordOf? value >>= SortKey.ofWord? with
  | some key => .ok key
  | none => .error .unknownSortKey

def checkVerbosity (value : Value) : Except Fault Verbosity :=
  match wordOf? value >>= Verbosity.ofWord? with
  | some verbosity => .ok verbosity
  | none => .error .unknownVerbosity

def ofOverlay (overlay : Overlay) : Except Fault Settings := do
  overlay.checkKeys
  checkExtensions (overlay.get .extensions)
  let maxSize ← checkSize (overlay.get .maxSize)
  let workers ← checkWorkers (overlay.get .workers)
  let sortBy ← checkSortKey (overlay.get .sortBy)
  let verbosity ← checkVerbosity (overlay.get .verbosity)
  return {
    extensions := overlay.get .extensions
    excludePatterns := overlay.get .excludePatterns
    allowHidden := overlay.get .allowHidden
    followLinks := overlay.get .followLinks
    encoding := overlay.get .encoding
    maxSize, workers, sortBy, verbosity }

/-! ## Use -/

def default : Settings where
  extensions := Field.extensions.defaultValue
  excludePatterns := Field.excludePatterns.defaultValue
  allowHidden := Field.allowHidden.defaultValue
  followLinks := Field.followLinks.defaultValue
  encoding := Field.encoding.defaultValue
  maxSize := .real (.ofDecimal false 10 0)
  workers := none
  sortBy := .name
  verbosity := .normal

def get (settings : Settings) : Field → Value
  | .extensions => settings.extensions
  | .excludePatterns => settings.excludePatterns
  | .allowHidden => settings.allowHidden
  | .followLinks => settings.followLinks
  | .encoding => settings.encoding
  | .maxSize => settings.maxSize.toValue
  | .workers => (settings.workers.map Quantity.toValue).getD .nothing
  | .sortBy => .text settings.sortBy.word
  | .verbosity => .text settings.verbosity.word

/-- The largest size of a script in octets. -/
def sizeLimit (settings : Settings) : Except Fault Int := settings.maxSize.mega

def isParallel (settings : Settings) : Bool := settings.workers.any (·.above 1)

/-- The values of all fields can be shown. -/
def isShowable (settings : Settings) : Bool :=
  Field.all.all fun field ↦ (settings.get field).isShowable

def display (settings : Settings) : Text :=
  Text.lit "AnalysisConfig(" ++
    Text.join ", " (Field.all.map fun field ↦ field.key ++ '=' :: (settings.get field).display) ++
    [')']

end Settings

end ShellMetrics
