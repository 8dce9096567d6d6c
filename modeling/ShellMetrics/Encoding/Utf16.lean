import ShellMetrics.Text.Basic

/-!
# UTF-16

Two octets make a unit, and two surrogates make a character.  A surrogate that stands alone is an
error, and so is what is left at the end.
-/

namespace ShellMetrics.Utf16

/-- Which octet of a unit comes first. -/
inductive ByteOrder where
  | little
  | big
  deriving DecidableEq

def unit (order : ByteOrder) (a b : UInt8) : Nat :=
  match order with
  | .little => a.toNat + 256 * b.toNat
  | .big => 256 * a.toNat + b.toNat

/-- A unit that starts a pair. -/
def isHigh (u : Nat) : Bool := 0xd800 ≤ u && u < 0xdc00

/-- A unit that ends a pair. -/
def isLow (u : Nat) : Bool := 0xdc00 ≤ u && u < 0xe000

/-- The text of the octets, with the replacement character for each error. -/
def decode (order : ByteOrder) : List UInt8 → Text
  | [] => []
  | [_] => ['\ufffd']
  | a :: b :: rest =>
    let u := unit order a b
    if isHigh u then
      match rest with
      | c :: d :: later =>
        let v := unit order c d
        if isLow v then
          Char.ofNat (0x10000 + 1024 * (u - 0xd800) + (v - 0xdc00)) :: decode order later
        else '\ufffd' :: decode order (c :: d :: later)
      | _ => ['\ufffd']
    else if isLow u then '\ufffd' :: decode order rest
    else Char.ofNat u :: decode order rest

end ShellMetrics.Utf16
