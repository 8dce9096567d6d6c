import ShellMetrics.Text.Basic

/-!
# Globs

A glob is a list of items.  A star takes any run of characters, slashes and newlines among them,
and every other item takes exactly one.  A bracket that is never closed stands for itself.
Whether a glob takes a text is read off a table with one entry for each end of the text, so that
the cost is the length of the glob times the length of the text.
-/

namespace ShellMetrics

namespace Glob

inductive Item where
  | char (c : Char)
  | any
  | many
  | set (negated : Bool) (ranges : List (Char × Char))
  deriving DecidableEq

/-! ## Character sets -/

/-- The text between brackets and what follows the closing one.  A closing bracket at the start
of the set, also after an exclamation mark, belongs to the set. -/
def setBody? (text : Text) : Option (Text × Text) :=
  let (lead, tail) : Text × Text := match text with
    | '!' :: ']' :: rest => (['!', ']'], rest)
    | '!' :: rest => (['!'], rest)
    | ']' :: rest => ([']'], rest)
    | rest => ([], rest)
  match tail.dropWhile (· ≠ ']') with
  | _ :: rest => some (lead ++ tail.takeWhile (· ≠ ']'), rest)
  | [] => none

/-- Cuts the text of a set at the hyphens that make a range.  The first characters, as many as
the number says, are passed over, and so are two after each cut.  A hyphen at the end makes no
range. -/
def chunks : Nat → Text → Text → List Text
  | _, chunk, [] => [chunk]
  | skip + 1, chunk, c :: rest => chunks skip (chunk ++ [c]) rest
  | 0, chunk, ['-'] => [chunk ++ ['-']]
  | 0, chunk, c :: rest =>
    if c = '-' then chunk :: chunks 2 [] rest else chunks 0 (chunk ++ [c]) rest

/-- The end of one chunk lies above the start of the next, so that their range is empty. -/
def isReversed (chunk next : Text) : Bool :=
  match chunk.getLast?, next.head? with
  | some last, some first => first < last
  | _, _ => false

/-- Joins chunks across empty ranges, from the right, dropping the two ends. -/
def dropReversed : List Text → List Text
  | [] => []
  | chunk :: rest =>
    match dropReversed rest with
    | [] => [chunk]
    | next :: later =>
      if isReversed chunk next then (chunk.dropLast ++ next.tail) :: later
      else chunk :: next :: later

/-- A set is a row of characters and of marks that join two of them to a range. -/
inductive Piece where
  | char (c : Char)
  | join

def Piece.toChar : Piece → Char
  | char c => c
  | join => '-'

/-- The ranges of a row of pieces.  A mark with nothing on one side is a hyphen. -/
def rangesOf : List Piece → List (Char × Char)
  | [] => []
  | first :: .join :: last :: rest => (first.toChar, last.toChar) :: rangesOf rest
  | piece :: rest => (piece.toChar, piece.toChar) :: rangesOf rest

/-- The set that stands between brackets. -/
def setOf (body : Text) : Item :=
  let cut := dropReversed (chunks (if body.head? = some '!' then 2 else 1) [] body)
  match [Piece.join].intercalate (cut.map (·.map Piece.char)) with
  | .char '!' :: pieces => .set true (rangesOf pieces)
  | pieces => .set false (rangesOf pieces)

/-! ## Reading a glob -/

/-- The items of a text, once as many characters as the number says are passed over. -/
def itemsFrom : Nat → Text → List Item
  | _, [] => []
  | skip + 1, _ :: rest => itemsFrom skip rest
  | 0, c :: rest =>
    if c = '*' then .many :: itemsFrom 0 rest
    else if c = '?' then .any :: itemsFrom 0 rest
    else if c = '[' then
      match setBody? rest with
      | some (body, _) => setOf body :: itemsFrom (body.length + 1) rest
      | none => .char '[' :: itemsFrom 0 rest
    else .char c :: itemsFrom 0 rest

def items (pattern : Text) : List Item := itemsFrom 0 pattern

/-! ## Matching -/

/-- The item takes this one character. -/
def Item.accepts (item : Item) (c : Char) : Bool :=
  match item with
  | char d => c = d
  | any => true
  | many => false
  | set negated ranges => (ranges.any fun range ↦ range.1 ≤ c && c ≤ range.2) != negated

/-- For each end of the text, whether it is taken by an item that takes one character followed by
what the given table stands for. -/
def stepTable (item : Item) : Text → List Bool → List Bool
  | c :: rest, _ :: later => (item.accepts c && later.headD false) :: stepTable item rest later
  | _, _ => [false]

/-- For each end of the text, whether some end of it is marked in the given table. -/
def anyLater : List Bool → List Bool
  | [] => []
  | here :: later =>
    let marks := anyLater later
    (here || marks.headD false) :: marks

/-- For each end of the text, the longest first, whether the items take it. -/
def table : List Item → Text → List Bool
  | [], text => text.map (fun _ ↦ false) ++ [true]
  | .many :: rest, text => anyLater (table rest text)
  | item :: rest, text => stepTable item text (table rest text)

/-- The items take the text. -/
def matchItems (items : List Item) (text : Text) : Bool := (table items text).headD false

end Glob

def Glob.accepts (pattern text : Text) : Bool := Glob.matchItems (Glob.items pattern) text

end ShellMetrics
