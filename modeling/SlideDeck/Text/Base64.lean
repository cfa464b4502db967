/-! Base 64, read leniently: characters outside the alphabet are passed over, and reading ends at padding
that completes a group. -/

namespace SlideDeck.Text

def base64Value? (c : Char) : Option Nat :=
  let n := c.toNat
  if 'A' ≤ c ∧ c ≤ 'Z' then some (n - 'A'.toNat)
  else if 'a' ≤ c ∧ c ≤ 'z' then some (n - 'a'.toNat + 26)
  else if '0' ≤ c ∧ c ≤ '9' then some (n - '0'.toNat + 52)
  else if c = '+' then some 62
  else if c = '/' then some 63
  else none

/-- Reads on with the sextets of an unfinished group, latest first, and the number of padding characters
right before. A group that is not completed has no meaning. -/
def decodeSextets (group : List Nat) (padding : Nat) : List Char → Option (List UInt8)
  | [] => if group = [] then some [] else none
  | c :: rest =>
    if c = '=' then
      match group with
      | [y, x] =>
        if padding = 1 then some [] else decodeSextets [y, x] (padding + 1) rest
      | [_, _, _] => some []
      | group => decodeSextets group padding rest
    else
      match base64Value? c with
      | none => decodeSextets group padding rest
      | some v =>
        match group with
        | [] => decodeSextets [v] 0 rest
        | [x] => (decodeSextets [v, x] 0 rest).map (UInt8.ofNat (x * 4 + v / 16) :: ·)
        | [y, x] => (decodeSextets [v, y, x] 0 rest).map (UInt8.ofNat (y % 16 * 16 + v / 4) :: ·)
        | z :: _ => (decodeSextets [] 0 rest).map (UInt8.ofNat (z % 4 * 64 + v) :: ·)

def decodeBase64 (text : List Char) : Option (List UInt8) := decodeSextets [] 0 text

end SlideDeck.Text
