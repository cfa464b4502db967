/-! Strict UTF-8: no overlong forms, no surrogates, nothing beyond U+10FFFF. -/

namespace SlideDeck.Text

def continuation? (b : UInt8) : Option Nat :=
  if 0x80 ≤ b ∧ b < 0xC0 then some (b.toNat - 0x80) else none

def charOf? (least n : Nat) : Option Char :=
  if h : n.isValidChar then if least ≤ n then some (Char.ofNatAux n h) else none else none

def decodeUtf8 : List UInt8 → Option (List Char)
  | [] => some []
  | a :: rest =>
    if a < 0x80 then (decodeUtf8 rest).map (Char.ofNat a.toNat :: ·)
    else if 0xC0 ≤ a ∧ a < 0xE0 then
      match rest with
      | b :: rest => do
        let c ← charOf? 0x80 ((a.toNat - 0xC0) * 64 + (← continuation? b))
        (decodeUtf8 rest).map (c :: ·)
      | _ => none
    else if 0xE0 ≤ a ∧ a < 0xF0 then
      match rest with
      | b :: b' :: rest => do
        let c ← charOf? 0x800
          (((a.toNat - 0xE0) * 64 + (← continuation? b)) * 64 + (← continuation? b'))
        (decodeUtf8 rest).map (c :: ·)
      | _ => none
    else if 0xF0 ≤ a ∧ a < 0xF8 then
      match rest with
      | b :: b' :: b'' :: rest => do
        let c ← charOf? 0x10000
          ((((a.toNat - 0xF0) * 64 + (← continuation? b)) * 64 + (← continuation? b')) * 64 +
            (← continuation? b''))
        (decodeUtf8 rest).map (c :: ·)
      | _ => none
    else none

end SlideDeck.Text
