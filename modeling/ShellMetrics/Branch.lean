import ShellMetrics.Line

/-!
# Branches and complexity

The complexity of a body is one plus its branches.  A line adds one branch if it holds a
branching keyword that is not quoted, and one for each word that holds a conditional operator.
-/

namespace ShellMetrics.Branch

/-- The words that open a branch, found also inside longer words. -/
def openers : List Text := ["if", "while", "for"]

/-- The words that make a line branch: the openers and the end of a case arm. -/
def keywords : List Text := openers ++ [Text.lit ";;"]

/-- The operators that make a word branch. -/
def operators : List Text := ["&&", "||"]

def startsWithOpener (text : Text) : Bool := openers.any (·.isPrefixOf text)

/-- One if the line holds a keyword and no opener of it stands behind a quote. -/
def keyword (line : Text) : Nat :=
  if keywords.any (Text.occurs · line) && !Line.behindQuote startsWithOpener line then 1 else 0

/-- The number of words, separated by single spaces, that hold an operator. -/
def condition (line : Text) : Nat :=
  (line.splitOn ' ').countP fun word ↦ operators.any (Text.occurs · word)

def ofLine (line : Text) : Nat := keyword line + condition line

/-- The complexity of a body: its branches and the one path without any. -/
def complexity (body : List Text) : Nat := 1 + (body.map ofLine).foldr (· + ·) 0

end ShellMetrics.Branch
