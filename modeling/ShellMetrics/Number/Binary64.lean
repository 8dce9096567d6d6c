/-!
# Binary floating point numbers of 64 bits

A number is a sign, a whole mantissa below `2 ^ 53` and a power of two, or infinite, or not a
number.  All arithmetic is exact arithmetic of natural numbers.  The one place where something
is lost is `ofRatio`, which rounds a quotient to the nearest number and a tie to the even one.
-/

namespace ShellMetrics

/-- A binary floating point number.  The finite number is `mantissa * 2 ^ exponent`. -/
inductive Binary64 where
  | nan
  | infinite (negative : Bool)
  | finite (negative : Bool) (mantissa : Nat) (exponent : Int)
  deriving DecidableEq

namespace Binary64

def minExponent : Int := -1074

def maxExponent : Int := 971

def zero (negative : Bool) : Binary64 := .finite negative 0 minExponent

/-- Numerator and denominator of `num / den` after division by `2 ^ exponent`. -/
def scale (num den : Nat) (exponent : Int) : Nat × Nat :=
  match exponent with
  | .ofNat e => (num, den * Nat.pow 2 e)
  | .negSucc e => (num * Nat.pow 2 (e + 1), den)

/-- The quotient rounded to the nearest whole number, a tie to the even one. -/
def roundDiv (num den : Nat) : Nat :=
  let quotient := num / den
  let twice := 2 * (num % den)
  if twice < den then quotient
  else if den < twice then quotient + 1
  else quotient + quotient % 2

/-- The exponent for which the quotient has a mantissa of 53 bits, or the least exponent. -/
def exponentOf (num den : Nat) : Int :=
  let low := max minExponent ((Nat.log2 num : Int) - Nat.log2 den - 53)
  let (n, d) := scale num den low
  if n / d < Nat.pow 2 53 then low else low + 1

/-- The number nearest to a quotient. -/
def ofRatio (negative : Bool) (num den : Nat) : Binary64 :=
  let exponent := exponentOf num den
  let (n, d) := scale num den exponent
  let mantissa := roundDiv n d
  let (mantissa, exponent) :=
    if mantissa = Nat.pow 2 53 then (Nat.pow 2 52, exponent + 1) else (mantissa, exponent)
  if num = 0 then zero negative
  else if maxExponent < exponent then .infinite negative
  else .finite negative mantissa exponent

/-- The number nearest to `digits * 10 ^ exponent`.  Numbers far outside the range are settled by
the count of their digits alone. -/
def ofDecimal (negative : Bool) (digits : Nat) (exponent : Int) : Binary64 :=
  let magnitude := (Nat.toDigits 10 digits).length + exponent
  if digits = 0 then zero negative
  else if 400 < magnitude then .infinite negative
  else if magnitude < -400 then zero negative
  else
    match exponent with
    | .ofNat e => ofRatio negative (digits * Nat.pow 10 e) 1
    | .negSucc e => ofRatio negative digits (Nat.pow 10 (e + 1))

/-- How the number compares with a whole number; nothing is said of what is not a number. -/
def compareInt (x : Binary64) (n : Int) : Option Ordering :=
  match x with
  | nan => none
  | infinite negative => some (if negative then .lt else .gt)
  | finite negative mantissa exponent =>
    let signed : Int := if negative then -mantissa else mantissa
    match exponent with
    | .ofNat e => some (compare (signed * Nat.pow 2 e) n)
    | .negSucc e => some (compare signed (n * Nat.pow 2 (e + 1)))

/-- The number times `2 ^ shift`.  Scaling up loses nothing, but can leave the range. -/
def scaleUp (shift : Nat) : Binary64 → Binary64
  | finite negative mantissa exponent =>
    match exponent + shift with
    | .ofNat e => ofRatio negative (mantissa * Nat.pow 2 e) 1
    | .negSucc e => ofRatio negative mantissa (Nat.pow 2 (e + 1))
  | x => x

/-- The whole part of a finite number, rounded toward zero. -/
def truncate (negative : Bool) (mantissa : Nat) (exponent : Int) : Int :=
  let (n, d) : Nat × Nat := match exponent with
    | .ofNat e => (mantissa * Nat.pow 2 e, 1)
    | .negSucc e => (mantissa, Nat.pow 2 (e + 1))
  if negative then -((n / d : Nat) : Int) else (n / d : Nat)

def toBits (x : Binary64) : Nat :=
  let sign (negative : Bool) : Nat := if negative then Nat.pow 2 63 else 0
  match x with
  | nan => 0x7ff8000000000000
  | infinite negative => sign negative + 0x7ff0000000000000
  | finite negative mantissa exponent =>
    if mantissa < Nat.pow 2 52 then sign negative + mantissa
    else
      sign negative + (exponent - minExponent + 1).toNat * Nat.pow 2 52 +
        (mantissa - Nat.pow 2 52)

def isNonzero : Binary64 → Bool
  | finite _ mantissa _ => mantissa ≠ 0
  | _ => true

end Binary64

end ShellMetrics
