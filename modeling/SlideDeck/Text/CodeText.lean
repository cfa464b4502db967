/-! Texts by their code points, which may be halves of surrogate pairs. -/

namespace SlideDeck

inductive CodePoint where
  | char (c : Char)
  | half (n : Nat)
  deriving Repr, DecidableEq

namespace CodePoint

def ofNat (n : Nat) : CodePoint :=
  if 0xD800 ≤ n ∧ n < 0xE000 then .half n else .char (Char.ofNat n)

def isHalf : CodePoint → Bool
  | char _ => false
  | half _ => true

def replacement : Char := '\uFFFD'

def toChar : CodePoint → Char
  | char c => c
  | half _ => replacement

end CodePoint

/-- A text that data hold. Two halves side by side are not the character that they would encode together. -/
structure CodeText where
  points : List CodePoint
  deriving Repr, DecidableEq

namespace CodeText

def ofChars (text : List Char) : CodeText where
  points := text.map .char

def ofString (text : String) : CodeText := ofChars text.toList

instance : Coe String CodeText := ⟨ofString⟩

def isEmpty (t : CodeText) : Bool := t.points.isEmpty

def holdsHalf (t : CodeText) : Bool := t.points.any CodePoint.isHalf

def chars (t : CodeText) : List Char := t.points.map CodePoint.toChar

def join : List CodePoint → List Char
  | .half high :: .half low :: rest =>
    if high < 0xDC00 ∧ 0xDC00 ≤ low then
      Char.ofNat (0x10000 + (high - 0xD800) * 0x400 + (low - 0xDC00)) :: join rest
    else CodePoint.replacement :: join (.half low :: rest)
  | point :: rest => point.toChar :: join rest
  | [] => []

def shown (t : CodeText) : String := String.ofList (join t.points)

end CodeText

end SlideDeck
