import ShellMetrics.Fault
import ShellMetrics.Line
import ShellMetrics.Number.Binary64
import ShellMetrics.Text.Digit
import ShellMetrics.Text.Lower
import ShellMetrics.Text.Space

/-!
# Numerals

Whole numbers and decimals as they are written in settings.  Digits of every script count, white
space around the numeral is dropped, and a single low line may stand between two digits.
-/

namespace ShellMetrics.Numeral

/-- One character in terms of ASCII: a space, a decimal digit, or a question mark for all that has
no place in a numeral. -/
def plainChar (c : Char) : Char :=
  if c.toNat < 127 then c
  else if Text.isSpace c then ' '
  else
    match Text.digitValue? c with
    | some value => Nat.digitChar value
    | none => '?'

/-- The text in terms of ASCII.  A text of ASCII characters stays as it is. -/
def plain (text : Text) : Text := if text.all (·.toNat < 128) then text else text.map plainChar

/-- The text without the ASCII white space at its two ends. -/
def strip (text : Text) : Text :=
  ((text.dropWhile Line.isAsciiSpace).reverse.dropWhile Line.isAsciiSpace).reverse

def sign : Text → Bool × Text
  | '-' :: rest => (true, rest)
  | '+' :: rest => (false, rest)
  | text => (false, text)

def digitsValue (digits : Text) : Nat :=
  digits.foldl (fun value c ↦ 10 * value + (c.toNat - '0'.toNat)) 0

/-! ## Whole numbers -/

/-- Digits with single low lines between them, and what follows.  The flag says that the last
character was a digit. -/
def spanDigits : Bool → Text → Option (Text × Text)
  | afterDigit, [] => if afterDigit then some ([], []) else none
  | afterDigit, c :: rest =>
    if c.isDigit then (spanDigits true rest).map fun found ↦ (c :: found.1, found.2)
    else if c = '_' then (if afterDigit then spanDigits false rest else none)
    else if afterDigit then some ([], c :: rest) else none

/-- Reads a whole number.  A numeral of too many digits is refused as such even if something that
does not belong to it follows. -/
def readInt (text : Text) : Except Fault Int :=
  let (negative, body) := sign ((plain text).dropWhile Line.isAsciiSpace)
  match spanDigits false body with
  | none => .error (.notAnInteger text)
  | some (digits, rest) =>
    if Fault.digitLimit < digits.length then .error (.tooManyDigits digits.length)
    else if rest.all Line.isAsciiSpace then
      .ok (if negative then -(digitsValue digits : Int) else digitsValue digits)
    else .error (.notAnInteger text)

/-! ## Decimals -/

/-- Drops the low lines, each of which has to stand between two digits.  The flag says that the
last character was a digit. -/
def dropLowLines : Bool → Text → Option Text
  | _, [] => some []
  | afterDigit, c :: rest =>
    if c = '_' then
      if afterDigit && (rest.head?.map Char.isDigit).getD false then dropLowLines false rest
      else none
    else (dropLowLines c.isDigit rest).map (c :: ·)

/-- Reads an optional exponent that takes all of the text. -/
def readExponent? : Text → Option Int
  | [] => some 0
  | c :: rest =>
    let (negative, digits) := sign rest
    if (c = 'e' || c = 'E') && digits ≠ [] && digits.all Char.isDigit then
      some (if negative then -(digitsValue digits : Int) else digitsValue digits)
    else none

/-- Reads digits, an optional point with more digits, and an optional exponent. -/
def readDecimal? (negative : Bool) (text : Text) : Option Binary64 :=
  let whole := text.takeWhile Char.isDigit
  let (fraction, rest) : Text × Text := match text.dropWhile Char.isDigit with
    | '.' :: rest => (rest.takeWhile Char.isDigit, rest.dropWhile Char.isDigit)
    | rest => ([], rest)
  if whole = [] && fraction = [] then none
  else
    (readExponent? rest).map fun exponent ↦
      Binary64.ofDecimal negative (digitsValue (whole ++ fraction)) (exponent - fraction.length)

/-- Reads a number without low lines, or one of the words for the numbers that are not finite. -/
def readUnbroken? (text : Text) : Option Binary64 :=
  let (negative, body) := sign text
  let word := body.map Char.toLower
  if word = Text.lit "inf" || word = Text.lit "infinity" then some (.infinite negative)
  else if word = Text.lit "nan" then some .nan
  else readDecimal? negative body

def readFloat (text : Text) : Except Fault Binary64 :=
  match dropLowLines false (strip (plain text)) >>= readUnbroken? with
  | some value => .ok value
  | none => .error (.notANumber text)

/-! ## Flags -/

def trueWords : List Text := ["true", "1", "yes", "on"]

def falseWords : List Text := ["false", "0", "no", "off"]

/-- Reads a flag in any letter case, with white space around it. -/
def readFlag (text : Text) : Except Fault Bool :=
  let word := Text.lower (Text.strip text)
  if trueWords.contains word then .ok true
  else if falseWords.contains word then .ok false
  else .error (.notAFlag text)

end ShellMetrics.Numeral
