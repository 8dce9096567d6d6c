import ShellMetrics.Script
import ShellMetrics.Settings.Basic
import ShellMetrics.Shebang
import ShellMetrics.World

/-!
# Loading scripts

A script is read from the file tree, if it is not too large, and decoded.  What the file system
or the name of the encoding is to blame for is reported as a problem with the file.  All other
faults are passed on.
-/

namespace ShellMetrics.Script

/-- The way of decoding that a setting asks for; nothing stands for UTF-8. -/
def decoderOf (world : World) : Value → Except Fault (List UInt8 → Except Fault Text)
  | .nothing => .ok Encoding.utf8.decode
  | .text name => Codec.decoderOf world.codecs name
  | value => .error (.encodingNotText value.typeName)

/-- An encoding that cannot even be looked up. -/
def checkEncoding : Value → Except Fault Unit
  | .nothing => .ok ()
  | .text name => if name.contains '\x00' then .error .nullInEncoding else .ok ()
  | value => .error (.encodingNotText value.typeName)

/-- The reason that is given for a fault in looking at a file. -/
def lookReason? : Fault → Option Text
  | .system .missing _ => some "No such file"
  | .system error path => some (Text.lit "OS error: " ++ error.describe path)
  | _ => none

def unknownReason (fault : Fault) : Text := Text.lit "Unknown encoding: " ++ fault.message

/-- The reason that is given for a fault in reading a file. -/
def readReason? : Fault → Option Text
  | .system .isDirectory _ => some "Is a directory"
  | .system error path => some (Text.lit "OS error: " ++ error.describe path)
  | .unknownEncoding name => some (unknownReason (.unknownEncoding name))
  | .notTextEncoding name => some (unknownReason (.notTextEncoding name))
  | _ => none

/-- A fault with a file, reported if there is a reason to give. -/
def fileProblem (path : Path) (reason? : Fault → Option Text) (fault : Fault) : Fault :=
  match reason? fault with
  | some reason => .reported (.fileAccess path reason)
  | none => fault

def tooLargeReason (size : Nat) (limit : Int) : Text :=
  Text.lit "File size " ++ Text.ofNat size ++ Text.lit " exceeds limit of " ++ Text.ofInt limit ++
    Text.lit " bytes"

def readContent (world : World) (settings : Settings) (path : Path) : Except Fault Text := do
  checkEncoding settings.encoding
  let octets ← world.read path
  (← decoderOf world settings.encoding) octets

def readText (world : World) (settings : Settings) (path : Path) : Except Fault Text := do
  let entry ← (world.tree.entryAt world.here true path).mapError (fileProblem path lookReason?)
  let limit ← settings.sizeLimit
  if limit < entry.size then
    throw (.reported (.fileAccess path (tooLargeReason entry.size limit)))
  (readContent world settings path).mapError (fileProblem path readReason?)

/-- The script at the end of a path, named after its last component. -/
def load (world : World) (settings : Settings) (path : Path) : Except Fault Script := do
  let content ← readText world settings path
  return { name := path.name, lines := splitLines content }

/-- The first line of the file names a shell.  A file that cannot be read names none. -/
def hasShebang (world : World) (path : Path) : Except Fault Bool :=
  match world.read path with
  | .ok octets => .ok (Shebang.inText (Utf8.decode octets))
  | .error (.system _ _) => .ok false
  | .error fault => .error fault

end ShellMetrics.Script
