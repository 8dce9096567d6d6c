import ShellMetrics.Text.Basic

/-!
# Arguments

An argument is an option by its long name, a group of options by their letters, or a positional
argument.  Options and positional arguments may be mixed.  Each argument is read for itself first.
What it leaves open is at most the value of its last option, which is then the next argument,
whatever that looks like.  After two lone hyphens all arguments are positional.
-/

namespace ShellMetrics.CommandLine

inductive Switch where
  | format
  | output
  | config
  | failAbove
  | sort
  | workers
  | verbose
  | quiet
  | logFile
  | version
  | help
  deriving DecidableEq

namespace Switch

def name : Switch → Text
  | format => "--format"
  | output => "--output"
  | config => "--config"
  | failAbove => "--fail-above"
  | sort => "--sort"
  | workers => "--workers"
  | verbose => "--verbose"
  | quiet => "--quiet"
  | logFile => "--log-file"
  | version => "--version"
  | help => "--help"

def letter? : Switch → Option Char
  | format => some 'f'
  | output => some 'o'
  | config => some 'c'
  | sort => some 's'
  | workers => some 'w'
  | verbose => some 'v'
  | quiet => some 'q'
  | failAbove | logFile | version | help => none

def takesValue : Switch → Bool
  | format | output | config | failAbove | sort | workers | logFile => true
  | verbose | quiet | version | help => false

def all : List Switch :=
  [format, output, config, failAbove, sort, workers, verbose, quiet, logFile, version, help]

/-- The option of a long name, which has to be complete. -/
def ofName? (text : Text) : Option Switch := all.find? (·.name = text)

def ofLetter? (letter : Char) : Option Switch := all.find? (·.letter? = some letter)

end Switch

/-- What is wrong with the way the program was called. -/
inductive UsageError where
  | noArguments
  | unknownOption (name : Text)
  | missingValue (switch : Switch)
  | unexpectedValue (switch : Switch)
  | noPaths
  | notAnInteger (switch : Switch) (text : Text)
  | outOfRange (switch : Switch) (number : Int)
  | noSuchFile (switch : Switch) (path : Text)
  | isDirectory (switch : Switch) (path : Text)
  | notReadable (switch : Switch) (path : Text)
  deriving DecidableEq

namespace UsageError

/-- The value of an option cannot be used. -/
def invalidValue (switch : Switch) (complaint : Text) : Text :=
  Text.lit "Invalid value for '" ++ switch.name ++ Text.lit "': " ++ complaint

def message : UsageError → Text
  | noArguments | noPaths => "Missing argument 'PATHS...'."
  | unknownOption name => Text.lit "No such option: " ++ name
  | missingValue switch => Text.lit "Option '" ++ switch.name ++ Text.lit "' requires an argument."
  | unexpectedValue switch =>
    Text.lit "Option '" ++ switch.name ++ Text.lit "' does not take a value."
  | notAnInteger switch text =>
    invalidValue switch ('\'' :: text ++ Text.lit "' is not a valid integer.")
  | outOfRange switch number =>
    invalidValue switch (Text.ofInt number ++ Text.lit " is not in the range.")
  | noSuchFile switch path =>
    invalidValue switch (Text.lit "File '" ++ path ++ Text.lit "' does not exist.")
  | isDirectory switch path =>
    invalidValue switch (Text.lit "File '" ++ path ++ Text.lit "' is a directory.")
  | notReadable switch path =>
    invalidValue switch (Text.lit "File '" ++ path ++ Text.lit "' is not readable.")

end UsageError

/-- An option with its value, which is empty for an option that takes none. -/
abbrev Setting := Switch × Text

/-- What a single argument says. -/
inductive Reading where
  /-- Two lone hyphens. -/
  | ending
  | positional
  | settings (settings : List Setting)
  /-- Options of which the last one has its value in the next argument. -/
  | awaiting (settings : List Setting) (switch : Switch)
  deriving DecidableEq

namespace Reading

/-- The reading with one more option in front. -/
def precede (setting : Setting) : Reading → Reading
  | settings rest => settings (setting :: rest)
  | awaiting rest switch => awaiting (setting :: rest) switch
  | other => other

/-- Reads a group of letters.  What follows the letter of an option that takes a value is its
value. -/
def ofLetters : Text → Except UsageError Reading
  | [] => .ok (settings [])
  | letter :: rest =>
    match Switch.ofLetter? letter with
    | none => .error (.unknownOption ['-', letter])
    | some switch =>
      if !switch.takesValue then (ofLetters rest).map (precede (switch, []))
      else if rest = [] then .ok (awaiting [] switch)
      else .ok (settings [(switch, rest)])

/-- Reads an option by its long name, with what follows the first equals sign. -/
def ofSwitch (switch : Switch) (value : Option Text) : Except UsageError Reading :=
  match switch.takesValue, value with
  | true, some value => .ok (settings [(switch, value)])
  | true, none => .ok (awaiting [] switch)
  | false, some _ => .error (.unexpectedValue switch)
  | false, none => .ok (settings [(switch, [])])

/-- What follows the first equals sign. -/
def valuePart (argument : Text) : Option Text :=
  match argument.dropWhile (· ≠ '=') with
  | [] => none
  | _ :: value => some value

def ofArgument (argument : Text) : Except UsageError Reading :=
  if argument = Text.lit "--" then .ok ending
  else if argument.head? ≠ some '-' || argument = ['-'] then .ok positional
  else
    let name := argument.takeWhile (· ≠ '=')
    match Switch.ofName? name with
    | some switch => ofSwitch switch (valuePart argument)
    | none =>
      if (Text.lit "--").isPrefixOf argument then .error (.unknownOption name)
      else ofLetters (argument.drop 1)

end Reading

/-- The options in the order they were given, and the positional arguments. -/
structure Given where
  settings : List Setting
  positional : List Text
  deriving DecidableEq

namespace Given

/-- Puts options in front. -/
def precede (settings : List Setting) (given : Given) : Given :=
  { given with settings := settings ++ given.settings }

def precedePositional (argument : Text) (given : Given) : Given :=
  { given with positional := argument :: given.positional }

def ofArguments : List Text → Except UsageError Given
  | [] => .ok ⟨[], []⟩
  | argument :: rest => do
    match ← Reading.ofArgument argument with
    | .ending => return ⟨[], rest⟩
    | .positional => return (← ofArguments rest).precedePositional argument
    | .settings settings => return (← ofArguments rest).precede settings
    | .awaiting settings switch =>
      match rest with
      | [] => throw (.missingValue switch)
      | value :: rest => return (← ofArguments rest).precede (settings ++ [(switch, value)])

/-- The value of an option.  The last one given counts. -/
def value? (given : Given) (switch : Switch) : Option Text :=
  (given.settings.findRev? (·.1 = switch)).map Prod.snd

def has (given : Given) (switch : Switch) : Bool := given.settings.any (·.1 = switch)

end Given

end ShellMetrics.CommandLine
