import ShellMetrics.Number.Numeral

/-!
# Counts

Whole numbers as they are written on a command line.  Only ASCII digits count.  A number may have
zeros in front, single low lines between its digits, and a point with zeros behind it.
-/

namespace ShellMetrics.Numeral

/-- White space of Unicode.  The controls that separate fields and records are none. -/
def isBlank (c : Char) : Bool := Text.isSpace c && !(28 ≤ c.toNat && c.toNat ≤ 31)

/-- The text without the white space of Unicode at its two ends. -/
def trim (text : Text) : Text :=
  ((text.dropWhile isBlank).reverse.dropWhile isBlank).reverse

/-- Drops zeros in front, with the low lines among them.  A zero stays if nothing or a point
follows. -/
def dropZeros (text : Text) : Option Text :=
  if text.head? ≠ some '0' then some text
  else
    let zeros := text.takeWhile fun c ↦ c = '0' || c = '_'
    let rest := text.drop zeros.length
    if (rest.head?.map Char.isDigit).getD false then some rest
    else if zeros.getLast? = some '0' then some ('0' :: rest)
    else none

/-- Drops a point with nothing but zeros behind it, at least one. -/
def dropFraction (text : Text) : Text :=
  match text.dropWhile (· ≠ '.') with
  | '.' :: zeros =>
    if zeros ≠ [] && zeros.all (· = '0') then text.takeWhile (· ≠ '.') else text
  | _ => text

def readCount? (text : Text) : Option Int := do
  let (negative, body) := sign (trim text)
  let digits ← dropLowLines false (dropFraction (← dropZeros body))
  guard (digits ≠ [] && digits.all Char.isDigit && digits.length ≤ Fault.digitLimit)
  return if negative then -(digitsValue digits : Int) else digitsValue digits

end ShellMetrics.Numeral
