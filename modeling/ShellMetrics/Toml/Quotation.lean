import ShellMetrics.Text.Basic

/-!
# Texts in TOML

A text is written in double quotes with escapes or in single quotes without, on one line in one
quote mark or over several lines in three.  Comments and white space are passed over.
-/

namespace ShellMetrics.Toml

def isControl (c : Char) : Bool := c.toNat < 32 || c.toNat = 127

/-- A character that no text on one line and no comment may hold. -/
def isBarred (c : Char) : Bool := isControl c && c ≠ '\t'

/-- A character that no text over several lines may hold. -/
def isBarredInLines (c : Char) : Bool := isBarred c && c ≠ '\n'

def isBlank (c : Char) : Bool := c = ' ' || c = '\t'

/-- The source after white space within a line. -/
def skipBlank (source : Text) : Text := source.dropWhile isBlank

/-- The source after a comment, if it starts with one. -/
def skipComment : Text → Option Text
  | '#' :: rest =>
    if (rest.takeWhile (· ≠ '\n')).any isBarred then none else some (rest.dropWhile (· ≠ '\n'))
  | source => some source

/-- The source after white space, line ends and comments.  The flag says that a comment is open. -/
def skipLayout : Bool → Text → Option Text
  | _, [] => some []
  | true, c :: rest =>
    if c = '\n' then skipLayout false rest
    else if isBarred c then none
    else skipLayout true rest
  | false, c :: rest =>
    if isBlank c || c = '\n' then skipLayout false rest
    else if c = '#' then skipLayout true rest
    else some (c :: rest)

/-! ## Double quotes -/

/-- Where the reader of a text in double quotes stands: in plain text, after a backslash, with
hexadecimal digits to come, or in a gap between lines, which has to hold a line end. -/
inductive Mode where
  | plain
  | escape
  | hex (left value : Nat)
  | gap (lineEnd : Bool)

/-- The gap between lines ends at the first character that is not white space. -/
def Mode.settle (mode : Mode) (c : Char) : Mode :=
  match mode with
  | gap true => if isBlank c || c = '\n' then mode else plain
  | _ => mode

/-- The character of a single letter after a backslash. -/
def escapeOf? (c : Char) : Option Char :=
  if c = 'b' then some '\x08'
  else if c = 't' then some '\t'
  else if c = 'n' then some '\n'
  else if c = 'f' then some '\x0c'
  else if c = 'r' then some '\r'
  else if c = '"' then some '"'
  else if c = '\\' then some '\\'
  else none

def hexValue? (c : Char) : Option Nat :=
  if c.isDigit then some (c.toNat - '0'.toNat)
  else if 'a' ≤ c && c ≤ 'f' then some (c.toNat - 'a'.toNat + 10)
  else if 'A' ≤ c && c ≤ 'F' then some (c.toNat - 'A'.toNat + 10)
  else none

/-- The code point of a character, not of a surrogate. -/
def isScalar (n : Nat) : Bool := n < 0xd800 || (0xe000 ≤ n && n < 0x110000)

/-- One more character before what follows. -/
def push (c : Char) : Text × Text → Text × Text
  | (text, rest) => (c :: text, rest)

/-- Reads a text in double quotes, on one line or over several, after the opening mark. -/
def readDoubleFrom (lines : Bool) : Mode → Text → Option (Text × Text)
  | _, [] => none
  | mode, c :: rest =>
    match mode.settle c with
    | .plain =>
      if c = '"' then
        if !lines then some ([], rest)
        else if List.isPrefixOf ['"', '"'] rest then some ([], rest.drop 2)
        else (readDoubleFrom lines .plain rest).map (push c)
      else if c = '\\' then readDoubleFrom lines .escape rest
      else if (if lines then isBarredInLines c else isBarred c) then none
      else (readDoubleFrom lines .plain rest).map (push c)
    | .escape =>
      if lines && isBlank c then readDoubleFrom lines (.gap false) rest
      else if lines && c = '\n' then readDoubleFrom lines (.gap true) rest
      else if c = 'u' then readDoubleFrom lines (.hex 4 0) rest
      else if c = 'U' then readDoubleFrom lines (.hex 8 0) rest
      else
        match escapeOf? c with
        | some d => (readDoubleFrom lines .plain rest).map (push d)
        | none => none
    | .hex left value =>
      match hexValue? c with
      | none => none
      | some digit =>
        let value := 16 * value + digit
        if 1 < left then readDoubleFrom lines (.hex (left - 1) value) rest
        else if isScalar value then
          (readDoubleFrom lines .plain rest).map (push (Char.ofNat value))
        else none
    | .gap lineEnd =>
      if isBlank c then readDoubleFrom lines (.gap lineEnd) rest
      else if c = '\n' then readDoubleFrom lines (.gap true) rest
      else none

/-! ## Single quotes -/

/-- Reads a text in single quotes on one line, after the opening mark. -/
def readSingle (source : Text) : Option (Text × Text) :=
  match source.dropWhile (· ≠ '\'') with
  | [] => none
  | _ :: rest =>
    let text := source.takeWhile (· ≠ '\'')
    if text.any isBarred then none else some (text, rest)

/-- Reads a text in single quotes over several lines, after the opening marks. -/
def readSingleLines : Text → Option (Text × Text)
  | [] => none
  | c :: rest =>
    if List.isPrefixOf ['\'', '\'', '\''] (c :: rest) then some ([], rest.drop 2)
    else if isBarredInLines c then none
    else (readSingleLines rest).map (push c)

/-! ## All texts -/

/-- At most two more quote marks right after the closing ones belong to the text. -/
def takeMarks (mark : Char) : Text × Text → Text × Text
  | (text, rest) =>
    let count := (rest.take 2).takeWhile (· = mark) |>.length
    (text ++ List.replicate count mark, rest.drop count)

/-- A line end right after the opening marks is dropped. -/
def dropLineEnd : Text → Text
  | '\n' :: rest => rest
  | source => source

def readLineText : Text → Option (Text × Text)
  | '"' :: rest => readDoubleFrom false .plain rest
  | '\'' :: rest => readSingle rest
  | _ => none

def readText : Text → Option (Text × Text)
  | '"' :: '"' :: '"' :: rest =>
    (readDoubleFrom true .plain (dropLineEnd rest)).map (takeMarks '"')
  | '\'' :: '\'' :: '\'' :: rest => (readSingleLines (dropLineEnd rest)).map (takeMarks '\'')
  | source => readLineText source

/-! ## Keys -/

/-- The names on the way to a value. -/
abbrev Key := List Text

def isKeyChar (c : Char) : Bool := c.isAlphanum || c = '-' || c = '_'

def readKeyPart (source : Text) : Option (Text × Text) :=
  match source.takeWhile isKeyChar with
  | [] => readLineText source
  | part => some (part, source.dropWhile isKeyChar)

/-- Reads a key of at most so many parts, with dots between them, and the white space after it. -/
def readKeyParts : Nat → Text → Option (Key × Text)
  | 0, _ => none
  | parts + 1, source => do
    let (part, rest) ← readKeyPart source
    match skipBlank rest with
    | '.' :: rest =>
      let (key, rest) ← readKeyParts parts (skipBlank rest)
      return (part :: key, rest)
    | rest => return ([part], rest)

def readKey (source : Text) : Option (Key × Text) := readKeyParts (source.length + 1) source

end ShellMetrics.Toml
