import ShellMetrics.Number.Binary64
import ShellMetrics.Text.Basic

/-!
# Shortest decimals

A number is shown with the fewest digits that read back as the same number.  The decimals that
read back are those between the two midpoints to the neighbours of the number, the midpoints
included if the mantissa is even.  Grids of one digit, two digits and so on are tried in turn,
and of two decimals on the same grid the nearer one is taken.
-/

namespace ShellMetrics.Binary64

/-- The decimals that read back as a number, all in units of `1 / den`: the number itself and the
ends of the interval around it. -/
structure Interval where
  value : Nat
  low : Nat
  high : Nat
  den : Nat
  closed : Bool

/-- The interval of `mantissa * 2 ^ exponent`.  Below a power of two the neighbours are closer. -/
def interval (mantissa : Nat) (exponent : Int) : Interval :=
  let below := if mantissa = Nat.pow 2 52 && minExponent < exponent then 1 else 2
  let (unit, den) : Nat × Nat := match exponent - 2 with
    | .ofNat e => (Nat.pow 2 e, 1)
    | .negSucc e => (1, Nat.pow 2 (e + 1))
  { value := 4 * mantissa * unit
    low := (4 * mantissa - below) * unit
    high := (4 * mantissa + 2) * unit
    den := den
    closed := mantissa % 2 = 0 }

/-- The decimal `digits * 10 ^ exponent` lies in the interval. -/
def Interval.contains (interval : Interval) (digits : Nat) (exponent : Int) : Bool :=
  let (n, scale) : Nat × Nat := match exponent with
    | .ofNat e => (digits * Nat.pow 10 e * interval.den, 1)
    | .negSucc e => (digits * interval.den, Nat.pow 10 (e + 1))
  if interval.closed then interval.low * scale ≤ n && n ≤ interval.high * scale
  else interval.low * scale < n && n < interval.high * scale

/-- The number of digits before the decimal point, negative if zeros follow the point. -/
def pointPlace (num den : Nat) : Int :=
  if den ≤ num then (Nat.toDigits 10 (num / den)).length
  else 1 - (Nat.toDigits 10 ((den - 1) / num)).length

/-- The decimal with `count` digits that reads back, if there is one: the nearer of the two
neighbours on the grid, or the other one. -/
def atGrid? (interval : Interval) (place : Int) (count : Nat) : Option (Nat × Int) :=
  let exponent := place - count
  let (n, d) : Nat × Nat := match exponent with
    | .ofNat e => (interval.value, interval.den * Nat.pow 10 e)
    | .negSucc e => (interval.value * Nat.pow 10 (e + 1), interval.den)
  let nearest := roundDiv n d
  let other := if nearest = n / d then nearest + 1 else n / d
  if interval.contains nearest exponent then some (nearest, exponent)
  else if interval.contains other exponent then some (other, exponent)
  else none

/-- Seventeen digits always read back, so the search ends. -/
def shortest (mantissa : Nat) (exponent : Int) : Nat × Int :=
  let interval := interval mantissa exponent
  let place := pointPlace interval.value interval.den
  ((List.range 17).findSome? fun i ↦ atGrid? interval place (i + 1)).getD (mantissa, 0)

/-- The digits without trailing zeros and the place of the decimal point. -/
def significant (mantissa : Nat) (exponent : Int) : Text × Int :=
  let (digits, power) := shortest mantissa exponent
  let all := Nat.toDigits 10 digits
  ((all.reverse.dropWhile (· = '0')).reverse, all.length + power)

/-- Digits with the decimal point at `place`.  From sixteen digits before the point to three
zeros after it the number is written out, with at least one digit after the point.  Outside of
that it is written with one digit before the point and an exponent of two digits or more. -/
def layout (digits : Text) (place : Int) : Text :=
  if -4 < place && place ≤ 0 then
    Text.lit "0." ++ List.replicate (-place).toNat '0' ++ digits
  else if 0 < place && place ≤ 16 then
    let whole := digits.take place.toNat
    let fraction := digits.drop place.toNat
    whole.rightpad place.toNat '0' ++ '.' :: (if fraction = [] then ['0'] else fraction)
  else
    let exponent := place - 1
    digits.take 1 ++ (if digits.length ≤ 1 then [] else '.' :: digits.drop 1) ++
      ['e', if exponent < 0 then '-' else '+'] ++ (Text.ofNat exponent.natAbs).leftpad 2 '0'

def toText (x : Binary64) : Text :=
  match x with
  | nan => "nan"
  | infinite negative => if negative then "-inf" else "inf"
  | finite negative mantissa exponent =>
    let magnitude := if mantissa = 0 then Text.lit "0.0" else
      let (digits, place) := significant mantissa exponent
      layout digits place
    if negative then '-' :: magnitude else magnitude

end ShellMetrics.Binary64
