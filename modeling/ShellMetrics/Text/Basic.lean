/-!
# Texts

A text is the list of its characters.  Length counts characters, every scan is structural
recursion, and what a function does to a text can be said with the vocabulary of lists.  This
module holds the few operations on texts that the list library does not have: occurrence of a
word, erasing a word, and decimal numerals.
-/

namespace ShellMetrics

/-- A text is the list of its characters. -/
abbrev Text := List Char

/-- A literal stands for the list of its characters. -/
instance : Coe String Text := ⟨String.toList⟩

namespace Text

abbrev lit (s : String) : Text := s.toList

/-- `word` stands somewhere in the text, as consecutive characters. -/
def occurs (word : Text) : Text → Bool
  | [] => word.isEmpty
  | c :: rest => word.isPrefixOf (c :: rest) || occurs word rest

/-- The text without the occurrences of `word`, taken from left to right without overlap.  The
number counts the characters of a found occurrence that are still to be dropped. -/
def eraseFrom (word : Text) : Nat → Text → Text
  | _, [] => []
  | skip + 1, _ :: rest => eraseFrom word skip rest
  | 0, c :: rest =>
    if word.isPrefixOf (c :: rest) then eraseFrom word (word.length - 1) rest
    else c :: eraseFrom word 0 rest

/-- The text without the occurrences of `word`, taken from left to right without overlap. -/
def erase (word text : Text) : Text := eraseFrom word 0 text

def ofNat (n : Nat) : Text := Nat.toDigits 10 n

def ofInt : Int → Text
  | .ofNat n => ofNat n
  | .negSucc n => '-' :: ofNat (n + 1)

/-- The texts one after the other with `separator` between them. -/
def join (separator : Text) (parts : List Text) : Text := separator.intercalate parts

/-- The text filled up with spaces on the right to at least `width` characters. -/
def padRight (width : Nat) (text : Text) : Text := text.rightpad width ' '

/-- The text filled up with spaces on the left to at least `width` characters. -/
def padLeft (width : Nat) (text : Text) : Text := text.leftpad width ' '

/-- What is left of the text after `word`, if the text starts with it. -/
def after? : (word text : Text) → Option Text
  | [], text => some text
  | _ :: _, [] => none
  | w :: word, c :: text => if w = c then after? word text else none

end Text

end ShellMetrics
