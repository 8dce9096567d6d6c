import ShellMetrics.Text.Basic
import ShellMetrics.Text.Printable

/-!
# Quoted texts

A text is shown in messages between quote marks on one line.  Characters that cannot be shown
are written by their code point.
-/

namespace ShellMetrics.Text

/-- The lower case hexadecimal digits of `n`, filled up with zeros to `width`. -/
def hex (width n : Nat) : Text := (Nat.toDigits 16 n).leftpad width '0'

/-- One character between quote marks `mark`. -/
def quoteChar (mark c : Char) : Text :=
  if c = mark || c = '\\' then ['\\', c]
  else if c = '\n' then "\\n"
  else if c = '\r' then "\\r"
  else if c = '\t' then "\\t"
  else if isPrintable c then [c]
  else if c.toNat < 0x100 then lit "\\x" ++ hex 2 c.toNat
  else if c.toNat < 0x10000 then lit "\\u" ++ hex 4 c.toNat
  else lit "\\U" ++ hex 8 c.toNat

/-- Single marks are used unless the text has one of them and no double mark. -/
def quoteMark (text : Text) : Char :=
  if text.contains '\'' && !text.contains '"' then '"' else '\''

def quote (text : Text) : Text :=
  let mark := quoteMark text
  mark :: text.flatMap (quoteChar mark) ++ [mark]

end ShellMetrics.Text
