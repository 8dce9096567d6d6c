import ShellMetrics.Text.Basic

/-!
# UTF-8

Decoding reads one octet at a time.  An octet that cannot go on with the character begun before
it ends that character as invalid and is then read afresh, so that each longest beginning of a
character that is not completed counts as one error.
-/

namespace ShellMetrics.Utf8

/-- Between two octets: no character is begun, or `left` octets are missing, the next of them
between `low` and `high`. -/
inductive State where
  | start
  | within (left low high value : Nat)
  deriving DecidableEq

/-- What has been read: a character, or `none` for an error. -/
abbrev Unit := Option Char

def first (octet : Nat) : List Utf8.Unit × State :=
  if octet < 0x80 then ([some (Char.ofNat octet)], .start)
  else if 0xc2 ≤ octet && octet ≤ 0xdf then ([], .within 1 0x80 0xbf (octet - 0xc0))
  else if octet = 0xe0 then ([], .within 2 0xa0 0xbf 0)
  else if octet = 0xed then ([], .within 2 0x80 0x9f 0xd)
  else if 0xe1 ≤ octet && octet ≤ 0xef then ([], .within 2 0x80 0xbf (octet - 0xe0))
  else if octet = 0xf0 then ([], .within 3 0x90 0xbf 0)
  else if octet = 0xf4 then ([], .within 3 0x80 0x8f 4)
  else if 0xf1 ≤ octet && octet ≤ 0xf3 then ([], .within 3 0x80 0xbf (octet - 0xf0))
  else ([none], .start)

def step (state : State) (octet : Nat) : List Utf8.Unit × State :=
  match state with
  | .start => first octet
  | .within left low high value =>
    if low ≤ octet && octet ≤ high then
      let value := 64 * value + (octet - 0x80)
      if left ≤ 1 then ([some (Char.ofNat value)], .start)
      else ([], .within (left - 1) 0x80 0xbf value)
    else
      let (units, state) := first octet
      (none :: units, state)

/-- Reads all octets.  A character that is begun at the end counts as one error. -/
def unitsFrom : State → List UInt8 → List Utf8.Unit
  | .start, [] => []
  | .within _ _ _ _, [] => [none]
  | state, octet :: rest =>
    let (units, state) := step state octet.toNat
    units ++ unitsFrom state rest

/-- What the octets stand for. -/
def units (octets : List UInt8) : List Utf8.Unit := unitsFrom .start octets

/-- The text of the octets, if there is no error in them. -/
def decode? (octets : List UInt8) : Option Text := (units octets).mapM id

/-- The text of the octets, with the replacement character for each error. -/
def decode (octets : List UInt8) : Text := (units octets).map (·.getD '\ufffd')

def encodeChar (c : Char) : List UInt8 :=
  let n := c.toNat
  let tail (shift : Nat) : UInt8 := UInt8.ofNat (0x80 + n / shift % 64)
  if n < 0x80 then [UInt8.ofNat n]
  else if n < 0x800 then [UInt8.ofNat (0xc0 + n / 64), tail 1]
  else if n < 0x10000 then [UInt8.ofNat (0xe0 + n / 4096), tail 64, tail 1]
  else [UInt8.ofNat (0xf0 + n / 262144), tail 4096, tail 64, tail 1]

def encode (text : Text) : List UInt8 := text.flatMap encodeChar

end ShellMetrics.Utf8
