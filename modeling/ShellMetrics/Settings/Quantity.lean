import ShellMetrics.Value

/-!
# Quantities

A quantity is a value that can be compared with whole numbers: a whole number, a decimal, or a
flag, which counts as zero or one.
-/

namespace ShellMetrics

/-- A value that is compared with whole numbers. -/
inductive Quantity where
  | flag (value : Bool)
  | whole (value : Int)
  | real (value : Binary64)
  deriving DecidableEq

namespace Quantity

def toValue : Quantity → Value
  | flag value => .flag value
  | whole value => .whole value
  | real value => .real value

/-- The quantity that a value is, if it is compared with whole numbers. -/
def ofValue? : Value → Option Quantity
  | .flag value => some (flag value)
  | .whole value => some (whole value)
  | .real value => some (real value)
  | _ => none

/-- How the quantity compares with a whole number; nothing is said of what is not a number. -/
def compareInt (quantity : Quantity) (n : Int) : Option Ordering :=
  match quantity with
  | flag value => some (compare (if value then 1 else 0) n)
  | whole value => some (compare value n)
  | real value => value.compareInt n

def atMost (quantity : Quantity) (n : Int) : Bool :=
  quantity.compareInt n = some .lt || quantity.compareInt n = some .eq

def below (quantity : Quantity) (n : Int) : Bool := quantity.compareInt n = some .lt

def above (quantity : Quantity) (n : Int) : Bool := quantity.compareInt n = some .gt

/-- The whole part of so many times `2 ^ 20`. -/
def mega (quantity : Quantity) : Except Fault Int :=
  match quantity with
  | flag value => .ok (if value then Nat.pow 2 20 else 0)
  | whole value => .ok (value * Nat.pow 2 20)
  | real value =>
    match value.scaleUp 20 with
    | .nan => .error .undefinedSize
    | .infinite _ => .error .infiniteSize
    | .finite negative mantissa exponent => .ok (Binary64.truncate negative mantissa exponent)

end Quantity

end ShellMetrics
