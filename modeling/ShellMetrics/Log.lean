import ShellMetrics.Settings.Basic
import ShellMetrics.World

/-!
# Logging

A logger sends records to its handlers, the console and at most one file.  Setting it up anew
closes and drops the handlers it had, puts the new ones in place one after the other, and sets
the level at the very end.  A log file that cannot be opened therefore leaves the console and the
old level.
-/

namespace ShellMetrics

/-- A message with its importance and the name of the part of the program it comes from. -/
structure Record where
  source : Text
  level : Int
  message : Text
  deriving DecidableEq

/-- Where records go. -/
inductive Sink where
  | console (detailed : Bool)
  | file (path : Path)
  deriving DecidableEq

/-- A sink that is open or has been closed. -/
structure Handler where
  sink : Sink
  isOpen : Bool
  deriving DecidableEq

/-- The handlers that are installed, those that have been dropped, and the level if it is set. -/
structure Logger where
  handlers : List Handler
  dropped : List Handler
  level : Option Int
  deriving DecidableEq

namespace Record

/-- The word for a level, padded in a log to eight characters. -/
def levelWord (level : Int) : Text :=
  if level = 0 then "NOTSET"
  else if level = 10 then "DEBUG"
  else if level = 20 then "INFO"
  else if level = 30 then "WARNING"
  else if level = 40 then "ERROR"
  else if level = 50 then "CRITICAL"
  else Text.lit "Level " ++ Text.ofInt level

/-- The line of a record in a file, with the time at the start. -/
def fileLine (stamp : Text) (record : Record) : Text :=
  stamp ++ ' ' :: Text.padRight 8 (levelWord record.level) ++ ' ' :: record.source ++
    ':' :: ' ' :: record.message ++ ['\n']

end Record

namespace Logger

def rootName : Text := "shccn"

def qualify : Option Text → Text
  | none => rootName
  | some name =>
    if name = rootName || (rootName ++ ['.']).isPrefixOf name then name
    else rootName ++ '.' :: name

def levelOf : Verbosity → Int
  | .quiet => 40
  | .normal => 30
  | .verbose => 10

/-- The level that applies while none is set. -/
def unsetLevel : Int := 30

def start : Logger := ⟨[], [], none⟩

/-- Closes the handlers and drops them. -/
def dropAll (logger : Logger) : Logger :=
  { logger with
    handlers := []
    dropped := logger.dropped ++ logger.handlers.map fun handler ↦
      { handler with isOpen := false } }

def install (logger : Logger) (sink : Sink) : Logger :=
  { logger with handlers := logger.handlers ++ [⟨sink, true⟩] }

/-- Records of this level are passed on. -/
def isEnabled (logger : Logger) (level : Int) : Bool := logger.level.getD unsetLevel ≤ level

end Logger

/-- What is put on the console: a record, with the time if the console is detailed, a label with a
text behind it that is shown as it stands, or a trace of a fault. -/
inductive Notice where
  | record (detailed : Bool) (stamp : Text) (record : Record)
  | message (label text : Text)
  | trace (fault : Fault)

/-- A logger, the world that its files are in, and what is on the console so far. -/
structure Logging where
  logger : Logger
  world : World
  console : List Notice := []

namespace Logging

/-- Opens a file for logging.  The file is created if it is missing. -/
def openFile (state : Logging) (path : Path) : Except Fault Logging := do
  let path := state.world.absolute path
  let tree ← state.world.tree.append state.world.here path []
  return { state with
    logger := state.logger.install (.file path)
    world := { state.world with tree } }

/-- Sets up the logger.  The state after a failure is part of the result. -/
def setup (state : Logging) (verbosity : Text) (file : Option Path) :
    Except Fault Unit × Logging :=
  match Verbosity.ofWord? verbosity with
  | none => (.error .unknownLogVerbosity, state)
  | some verbosity =>
    let console := { state with
      logger := state.logger.dropAll.install (.console (verbosity == Verbosity.verbose)) }
    let opened : Except Fault Logging := match file with
      | none => .ok console
      | some path => console.openFile path
    match opened with
    | .error fault => (.error fault, console)
    | .ok ready =>
      (.ok (), { ready with
        logger := { ready.logger with level := some (Logger.levelOf verbosity) } })

def print (state : Logging) (notice : Notice) : Logging :=
  { state with console := state.console ++ [notice] }

def deliver (stamp : Text) (record : Record) (state : Logging) (handler : Handler) : Logging :=
  match handler.sink with
  | .console detailed => state.print (.record detailed stamp record)
  | .file path =>
    let world := state.world
    match world.tree.append world.here path (Utf8.encode (record.fileLine stamp)) with
    | .ok tree => { state with world := { world with tree } }
    | .error _ => state

/-- Passes a record on to the handlers, if its level is high enough. -/
def log (state : Logging) (stamp : Text) (record : Record) : Logging :=
  if state.logger.isEnabled record.level then
    state.logger.handlers.foldl (deliver stamp record) state
  else state

/-- Passes records on, one after the other. -/
def logAll (state : Logging) (stamp : Text) (records : List Record) : Logging :=
  records.foldl (fun state record ↦ state.log stamp record) state

end Logging

namespace Log

/-- The character fits the pattern of a time stamp, where a zero stands for any digit. -/
def fits (pattern c : Char) : Bool := if pattern = '0' then c.isDigit else c = pattern

/-- The pattern of a time stamp. -/
def stampPattern : Text := "0000-00-00 00:00:00 "

/-- A line of a log without its time stamp, nothing if it has none. -/
def unstamp? (line : Text) : Option Text :=
  if stampPattern.length ≤ line.length && (List.zipWith fits stampPattern line).all id then
    some (line.drop stampPattern.length)
  else none

/-- The lines of a log that have a time stamp, without it. -/
def entries (content : Text) : List Text :=
  ((content.map fun c ↦ if c = '\r' then '\n' else c).splitOn '\n').filterMap unstamp?

end Log

end ShellMetrics
