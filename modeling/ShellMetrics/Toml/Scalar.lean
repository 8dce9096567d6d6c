import ShellMetrics.Moment
import ShellMetrics.Number.Numeral
import ShellMetrics.Toml.Quotation
import ShellMetrics.Value

/-!
# Numbers and moments in TOML

Whole numbers in four bases, decimals, the numbers that are not finite, dates and times.
-/

namespace ShellMetrics.Toml

/-! ## Numbers -/

/-- The digits at the start of the source, without the single low lines between them, and what
follows.  The flag says that the last character was a digit. -/
def digitRunFrom (isDigit : Char → Bool) : Bool → Text → Text × Text
  | _, [] => ([], [])
  | afterDigit, c :: rest =>
    if isDigit c then
      let (digits, later) := digitRunFrom isDigit true rest
      (c :: digits, later)
    else if c = '_' && afterDigit && (rest.head?.map isDigit).getD false then
      digitRunFrom isDigit false rest
    else ([], c :: rest)

/-- The digits at the start of the source, without the single low lines between them, and what
follows. -/
def digitRun (isDigit : Char → Bool) (source : Text) : Text × Text :=
  digitRunFrom isDigit false source

def valueIn (base : Nat) (digits : Text) : Nat :=
  digits.foldl (fun value c ↦ base * value + (hexValue? c).getD 0) 0

def isDigitIn (base : Nat) (c : Char) : Bool := (hexValue? c).any (· < base)

/-- The base that a letter after a zero stands for. -/
def baseOf? (c : Char) : Option Nat :=
  if c = 'x' then some 16 else if c = 'b' then some 2 else if c = 'o' then some 8 else none

/-- Reads a whole number in a base other than ten. -/
def readBased : Text → Option (Value × Text)
  | '0' :: letter :: rest => do
    let base ← baseOf? letter
    match digitRun (isDigitIn base) rest with
    | ([], _) => none
    | (digits, rest) => some (.whole (valueIn base digits), rest)
  | _ => none

/-- The whole part of a decimal: a single zero, or digits that start with another one. -/
def readWholePart : Text → Option (Text × Text)
  | '0' :: rest => some (['0'], rest)
  | source =>
    match digitRun Char.isDigit source with
    | ([], _) => none
    | read => some read

/-- The fraction of a decimal, if there is one. -/
def readFraction : Text → Option (Text × Text)
  | '.' :: rest =>
    match digitRun Char.isDigit rest with
    | ([], _) => none
    | read => some read
  | _ => none

/-- The exponent of a decimal, if there is one. -/
def readPower : Text → Option (Int × Text)
  | c :: rest =>
    if c = 'e' || c = 'E' then
      let (negative, digits) := Numeral.sign rest
      match digitRun Char.isDigit digits with
      | ([], _) => none
      | (digits, rest) =>
        some (if negative then -(Numeral.digitsValue digits : Int) else Numeral.digitsValue digits,
          rest)
    else none
  | [] => none

structure Decimal where
  negative : Bool
  whole : Text
  fraction : Option Text
  power : Option Int

def readDecimal (source : Text) : Option (Decimal × Text) := do
  let (negative, body) := Numeral.sign source
  let (whole, rest) ← readWholePart body
  let (fraction, rest) : Option Text × Text := match readFraction rest with
    | some (digits, rest) => (some digits, rest)
    | none => (none, rest)
  let (power, rest) : Option Int × Text := match readPower rest with
    | some (power, rest) => (some power, rest)
    | none => (none, rest)
  return ({ negative, whole, fraction, power }, rest)

/-- The number that a decimal stands for.  Without fraction and exponent it is whole, and it may
not have too many digits. -/
def Decimal.value (decimal : Decimal) : Except Fault Value :=
  match decimal.fraction, decimal.power with
  | none, none =>
    let value : Int := Numeral.digitsValue decimal.whole
    if Fault.digitLimit < decimal.whole.length then .error (.tooManyDigits decimal.whole.length)
    else .ok (.whole (if decimal.negative then -value else value))
  | fraction, power =>
    let fraction := fraction.getD []
    .ok (.real (Binary64.ofDecimal decimal.negative
      (Numeral.digitsValue (decimal.whole ++ fraction)) (power.getD 0 - fraction.length)))

/-- Reads one of the numbers that are not finite. -/
def readSpecial (source : Text) : Option (Value × Text) :=
  let (negative, body) := Numeral.sign source
  match Text.after? "inf" body, Text.after? "nan" body with
  | some rest, _ => some (.real (.infinite negative), rest)
  | none, some rest => some (.real .nan, rest)
  | none, none => none

/-! ## Moments -/

def readTwo (low high : Nat) : Text → Option (Nat × Text)
  | a :: b :: rest =>
    let value := Numeral.digitsValue [a, b]
    if a.isDigit && b.isDigit && low ≤ value && value ≤ high then some (value, rest) else none
  | _ => none

def readMark (mark : Char) : Text → Option Text
  | c :: rest => if c = mark then some rest else none
  | [] => none

/-- Reads a date, which need not exist in the calendar. -/
def readDate (source : Text) : Option (Date × Text) := do
  let year := source.take 4
  if year.length = 4 && year.all Char.isDigit then
    let rest ← readMark '-' (source.drop 4)
    let (month, rest) ← readTwo 1 12 rest
    let rest ← readMark '-' rest
    let (day, rest) ← readTwo 1 31 rest
    return ({ year := Numeral.digitsValue year, month, day }, rest)
  else none

/-- Reads a fraction of a second.  Digits after the sixth are dropped. -/
def readMicro : Text → Nat × Text
  | '.' :: rest =>
    match rest.takeWhile Char.isDigit with
    | [] => (0, '.' :: rest)
    | digits =>
      (Numeral.digitsValue ((digits.take 6).rightpad 6 '0'), rest.dropWhile Char.isDigit)
  | source => (0, source)

def readTime (source : Text) : Option (TimeOfDay × Text) := do
  let (hour, rest) ← readTwo 0 23 source
  let rest ← readMark ':' rest
  let (minute, rest) ← readTwo 0 59 rest
  let rest ← readMark ':' rest
  let (second, rest) ← readTwo 0 59 rest
  let (micro, rest) := readMicro rest
  return ({ hour, minute, second, micro }, rest)

/-- Reads a distance from universal time, in minutes. -/
def readOffset : Text → Option (Int × Text)
  | c :: rest =>
    if c = 'Z' || c = 'z' then some (0, rest)
    else if c = '+' || c = '-' then do
      let (hour, rest) ← readTwo 0 23 rest
      let rest ← readMark ':' rest
      let (minute, rest) ← readTwo 0 59 rest
      let minutes : Int := 60 * hour + minute
      return (if c = '-' then -minutes else minutes, rest)
    else none
  | [] => none

/-- Reads the time that may follow a date. -/
def readTimeAfterDate : Text → Option (TimeOfDay × Text)
  | c :: rest => if c = 'T' || c = 't' || c = ' ' then readTime rest else none
  | [] => none

/-- Reads a date, a time, or both.  A date has to exist in the calendar. -/
def readMoment (source : Text) : Option (Except Fault Value × Text) :=
  match readDate source with
  | none => (readTime source).map fun (time, rest) ↦ (.ok (.moment (.time time)), rest)
  | some (date, rest) =>
    let checked (moment : Moment) : Except Fault Value :=
      if date.isValid then .ok (.moment moment) else .error .malformedToml
    match readTimeAfterDate rest with
    | none => some (checked (.date date), rest)
    | some (time, rest) =>
      match readOffset rest with
      | none => some (checked (.dateTime date time none), rest)
      | some (offset, rest) => some (checked (.dateTime date time (some offset)), rest)

end ShellMetrics.Toml
