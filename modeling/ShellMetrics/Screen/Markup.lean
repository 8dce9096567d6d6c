import ShellMetrics.Fault
import ShellMetrics.Screen.Emoji

/-!
# Markup

Texts for a screen may hold tags in brackets, and an odd number of backslashes in front of a
tag takes it literally.  A bracket opens a tag if a lower case letter or one of three other
characters follows it and a closing bracket comes before the next opening one.  A text is escaped
before it is put into markup.  Two escaped texts next to each other can still make a tag, namely
one that is opened in the first text and ends in the second.
-/

namespace ShellMetrics.Screen.Markup

/-- What stands behind an opening bracket makes it a tag. -/
def opensTag : Text → Bool
  | [] => false
  | c :: rest =>
    (c.isLower || c = '#' || c = '/' || c = '@') && (rest.takeWhile (· ≠ '[')).contains ']'

def slashes (count : Nat) : Text := List.replicate count '\\'

/-! ## Escaping -/

/-- Escapes tags, given the number of backslashes just read.  They are doubled in front of a tag
and one more is added. -/
def escapeFrom : Nat → Text → Text
  | count, [] => slashes count
  | count, c :: rest =>
    if c = '\\' then escapeFrom (count + 1) rest
    else if c = '[' && opensTag rest then slashes (2 * count + 1) ++ c :: escapeFrom 0 rest
    else slashes count ++ c :: escapeFrom 0 rest

/-- Exactly one backslash stands at the end. -/
def endsInSlash (text : Text) : Bool := (text.reverse.takeWhile (· = '\\')).length = 1

/-- Escapes a text, so that it holds no tag of its own.  A single backslash at the end is
doubled, so that it escapes nothing behind it. -/
def escape (text : Text) : Text :=
  escapeFrom 0 text ++ if endsInSlash text then ['\\'] else []

/-! ## Reading -/

/-- A part of markup: text, or a tag without its brackets and where it stands. -/
inductive Piece where
  | plain (text : Text)
  | tag (position : Nat) (body : Text)
  deriving DecidableEq

def plainPiece (text : Text) : List Piece := if text = [] then [] else [.plain text]

/-- The pieces of a tag behind so many backslashes. -/
def tagPieces (position count : Nat) (body : Text) : List Piece :=
  plainPiece (slashes (count / 2)) ++
    if count % 2 = 1 then [.plain ('[' :: body ++ [']'])] else [.tag position body]

/-- The pieces of markup.  The numbers are the position, the backslashes just read and the
characters of a tag that are still to be passed over, and the text is what has been read since
the last tag, backwards. -/
def piecesFrom (position count : Nat) (read : Text) : Nat → Text → List Piece
  | _, [] => plainPiece ((slashes count ++ read).reverse)
  | skip + 1, _ :: rest => piecesFrom (position + 1) 0 [] skip rest
  | 0, c :: rest =>
    if c = '\\' then piecesFrom (position + 1) (count + 1) read 0 rest
    else if c = '[' && opensTag rest then
      let body := rest.takeWhile (· ≠ ']')
      plainPiece read.reverse ++ tagPieces position count body ++
        piecesFrom (position + 1) 0 [] (body.length + 1) rest
    else piecesFrom (position + 1) 0 (c :: slashes count ++ read) 0 rest

def pieces (markup : Text) : List Piece := piecesFrom 0 0 [] 0 markup

/-! ## Showing -/

/-- The text without the backslashes in front of brackets. -/
def dropEscapes : Text → Text
  | [] => []
  | c :: rest =>
    if c = '\\' && rest.head? = some '[' then dropEscapes rest else c :: dropEscapes rest

/-- What is shown of a piece: its text with emoji for codes, nothing of a tag. -/
def Piece.shown : Piece → Text
  | plain text => Emoji.replace (dropEscapes text)
  | tag _ _ => []

/-- The name of a tag ends where its parameters start. -/
def tagName (body : Text) : Text := body.takeWhile (· ≠ '=')

def normalize (name : Text) : Text := Text.lower (Text.strip name)

/-- The open tags, the last one first, after one more tag. -/
def step (opened : List Text) (position : Nat) (body : Text) : Except Fault (List Text) :=
  match tagName body with
  | '/' :: name =>
    if normalize name = [] then
      match opened with
      | [] => .error (.nothingToClose position)
      | _ :: rest => .ok rest
    else if opened.contains (normalize name) then .ok (opened.erase (normalize name))
    else .error (.unmatchedTag body position)
  | name => .ok (normalize name :: opened)

def tagsAfter (opened : List Text) (pieces : List Piece) : Except Fault (List Text) :=
  pieces.foldlM (fun opened piece ↦
    match piece with
    | .plain _ => .ok opened
    | .tag position body => step opened position body) opened

/-- What is shown of markup.  Each closing tag has to match an open one. -/
def render (markup : Text) : Except Fault Text := do
  let _ ← tagsAfter [] (pieces markup)
  return (pieces markup).flatMap Piece.shown

/-- What is shown of a text that has been escaped. -/
def literal (text : Text) : Text := (pieces (escape text)).flatMap Piece.shown

end ShellMetrics.Screen.Markup
