import ShellMetrics.Text.Basic

/-!
# Moments

Calendar dates, times of day, and both together, with an optional distance from universal time.
-/

namespace ShellMetrics

structure Date where
  year : Nat
  month : Nat
  day : Nat
  deriving DecidableEq

/-- A time of day, to the millionth of a second. -/
structure TimeOfDay where
  hour : Nat
  minute : Nat
  second : Nat
  micro : Nat
  deriving DecidableEq

/-- A date, a time, or both with the minutes ahead of universal time if they are known. -/
inductive Moment where
  | date (day : Date)
  | time (clock : TimeOfDay)
  | dateTime (day : Date) (clock : TimeOfDay) (offset : Option Int)
  deriving DecidableEq

namespace Moment

/-- The number with at least `width` digits. -/
def padded (width n : Nat) : Text := (Text.ofNat n).leftpad width '0'

end Moment

namespace Date

def isLeap (year : Nat) : Bool := year % 4 = 0 && (year % 100 ≠ 0 || year % 400 = 0)

def daysIn (year month : Nat) : Nat :=
  if month = 2 then (if isLeap year then 29 else 28)
  else if month = 4 || month = 6 || month = 9 || month = 11 then 30
  else 31

/-- The day exists. -/
def isValid (date : Date) : Bool :=
  1 ≤ date.year && 1 ≤ date.month && date.month ≤ 12 && 1 ≤ date.day &&
    date.day ≤ daysIn date.year date.month

def toText (date : Date) : Text :=
  Moment.padded 4 date.year ++ '-' :: Moment.padded 2 date.month ++
    '-' :: Moment.padded 2 date.day

def fields (date : Date) : List Nat := [date.year, date.month, date.day]

end Date

namespace TimeOfDay

def toText (time : TimeOfDay) : Text :=
  Moment.padded 2 time.hour ++ ':' :: Moment.padded 2 time.minute ++
    ':' :: Moment.padded 2 time.second ++
    if time.micro = 0 then [] else '.' :: Moment.padded 6 time.micro

def fields (time : TimeOfDay) : List Nat :=
  [time.hour, time.minute] ++
    if time.micro ≠ 0 then [time.second, time.micro]
    else if time.second ≠ 0 then [time.second]
    else []

end TimeOfDay

namespace Moment

/-- The sign, hours and minutes of an offset. -/
def offsetText (offset : Int) : Text :=
  (if offset < 0 then '-' else '+') :: padded 2 (offset.natAbs / 60) ++
    ':' :: padded 2 (offset.natAbs % 60)

def toText : Moment → Text
  | date d => d.toText
  | time t => t.toText
  | dateTime d t offset => d.toText ++ 'T' :: t.toText ++ (offset.map offsetText).getD []

def kindName : Moment → Text
  | date _ => "date"
  | time _ => "time"
  | dateTime _ _ _ => "datetime"

/-- The word for the kind of moment, with the family that all kinds belong to in front. -/
def typeName (moment : Moment) : Text := Text.lit "datetime." ++ moment.kindName

/-- A zone by its distance from universal time, in days and seconds. -/
def showOffset (offset : Int) : Text :=
  if offset = 0 then "datetime.timezone.utc"
  else
    let seconds := offset * 60
    Text.lit "datetime.timezone(datetime.timedelta(" ++
      (if seconds < 0 then Text.lit "days=-1, seconds=" ++ Text.ofInt (seconds + 86400)
        else Text.lit "seconds=" ++ Text.ofInt seconds) ++
      Text.lit "))"

/-- The moment by the numbers it is made of. -/
def display (moment : Moment) : Text :=
  let numbers (parts : List Nat) : Text := Text.join ", " (parts.map Text.ofNat)
  moment.typeName ++ '(' ::
    (match moment with
      | date d => numbers d.fields
      | time t => numbers t.fields
      | dateTime d t offset =>
        numbers (d.fields ++ t.fields) ++
          (offset.map fun o ↦ Text.lit ", tzinfo=" ++ showOffset o).getD []) ++ [')']

end Moment

end ShellMetrics
