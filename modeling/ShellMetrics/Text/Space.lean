import ShellMetrics.Text.Ranges

/-!
# White space

White space in the wide sense: the separators of Unicode and the controls that separate lines,
fields and records.
-/

namespace ShellMetrics.Text

def spaceRanges : List (Nat × Nat) := [
  (0x9, 0xd), (0x1c, 0x20), (0x85, 0x85), (0xa0, 0xa0), (0x1680, 0x1680), (0x2000, 0x200a),
  (0x2028, 0x2029), (0x202f, 0x202f), (0x205f, 0x205f), (0x3000, 0x3000)]

/-- White space in the wide sense. -/
def isSpace (c : Char) : Bool := inRanges spaceRanges c

/-- The text without the white space at its two ends. -/
def strip (text : List Char) : List Char :=
  ((text.dropWhile isSpace).reverse.dropWhile isSpace).reverse

end ShellMetrics.Text
