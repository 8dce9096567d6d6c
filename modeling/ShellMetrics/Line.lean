import ShellMetrics.Text.Basic

/-!
# Lines of a shell script

A line is read on its own, without looking at its neighbours: is it blank, is it a comment, does
it declare a function and under which name, does it close a body.  Quoting is taken by a rule of
thumb.  A brace or a keyword that has a quote somewhere before it counts as quoted, and a
declaration is looked for in what is left once quoted text is dropped.
-/

namespace ShellMetrics.Line

/-- The six white space characters of ASCII. -/
def isAsciiSpace (c : Char) : Bool :=
  c = ' ' || c = '\t' || c = '\n' || c = '\r' || c = '\x0b' || c = '\x0c'

def isQuote (c : Char) : Bool := c = '\'' || c = '"'

/-- Nothing but spaces.  A tab makes a line that is not blank. -/
def isBlank (line : Text) : Bool := line.all (· = ' ')

/-- The first character that is not ASCII white space is a number sign. -/
def isComment (line : Text) : Bool :=
  match line.dropWhile isAsciiSpace with
  | '#' :: _ => true
  | _ => false

/-- The line at position zero is never a comment, since a `#!` line counts as code. -/
def isCommentAt (index : Int) (line : Text) : Bool := index ≠ 0 && isComment line

/-- The lines that are neither blank nor comments.  A leading `#!` line is dropped as well. -/
def codeLines (lines : List Text) : List Text :=
  lines.filter fun line ↦ !isBlank line && !isComment line

/-! ## Declarations -/

/-- Drops quote marks and the text between them.  The flag says that a quote is open. -/
def dropQuoted : Bool → Text → Text
  | _, [] => []
  | quoted, c :: rest =>
    if c = '\'' then dropQuoted (!quoted) rest
    else if quoted then dropQuoted quoted rest
    else c :: dropQuoted quoted rest

/-- The line without what stands in single quotes.  An open quote takes the rest of the line. -/
def unquoted (line : Text) : Text := dropQuoted false line

/-- The line with every double quote turned into a single one. -/
def unifyQuotes (line : Text) : Text := line.map fun c ↦ if c = '"' then '\'' else c

/-- The line without quoted text of either kind. -/
def bare (line : Text) : Text :=
  let unified := unifyQuotes line
  if unified.contains '\'' then unquoted unified else unified

/-- After an opening parenthesis: a closing one and an opening brace follow, with nothing but
white space before each. -/
def closesAndOpens (text : Text) : Bool :=
  match text.dropWhile isAsciiSpace with
  | ')' :: rest =>
    match rest.dropWhile isAsciiSpace with
    | '{' :: _ => true
    | _ => false
  | _ => false

/-- An empty pair of parentheses followed by an opening brace stands somewhere in the text. -/
def hasParameterList : Text → Bool
  | [] => false
  | c :: rest => (c = '(' && closesAndOpens rest) || hasParameterList rest

/-- The line declares a function, as in `name() {`. -/
def declares (line : Text) : Bool := hasParameterList (bare line)

/-- A character that takes no part in a declared name. -/
def isNameNoise (c : Char) : Bool := c = '{' || c = '(' || c = ')' || c = ' '

/-- The name a declaration gives: the line without the word `function`, braces, parentheses and
spaces. -/
def declaredName (line : Text) : Text :=
  (Text.erase "function" line).filter fun c ↦ !isNameNoise c

/-! ## What stands behind a quote -/

/-- Some end of the text that satisfies `found` has a quote before it, with no newline between.
The flag says that a quote has been seen since the last newline. -/
def foundBehindQuote (found : Text → Bool) : Bool → Text → Bool
  | _, [] => false
  | seen, c :: rest =>
    (seen && found (c :: rest)) || foundBehindQuote found (c ≠ '\n' && (seen || isQuote c)) rest

/-- Some end of the text that satisfies `found` has a quote before it, with no newline between. -/
def behindQuote (found : Text → Bool) (text : Text) : Bool := foundBehindQuote found false text

/-- The line closes the body it stands in: it has a closing brace, and no closing brace has a
quote before it. -/
def closes (line : Text) : Bool :=
  line.contains '}' && !behindQuote (List.isPrefixOf ['}']) line

end ShellMetrics.Line
