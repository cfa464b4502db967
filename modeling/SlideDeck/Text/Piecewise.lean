import SlideDeck.Text.Utf8

/-! A file is decoded piece by piece, and its characters are handed out in blocks, so that bytes that encode
no text are found only when a block that needs their piece is asked for. -/

namespace SlideDeck.Text

def unifyBreaks : List Char → List Char
  | '\r' :: '\n' :: rest => '\n' :: unifyBreaks rest
  | '\r' :: rest => '\n' :: unifyBreaks rest
  | c :: rest => c :: unifyBreaks rest
  | [] => []

/-- Whether a byte may follow the first byte of a character of several bytes, or of half of a surrogate
pair, which is found to be no character only when it is complete. -/
def isSecondByte (first second : UInt8) : Bool :=
  0x80 ≤ second && second < 0xC0 && (first != 0xE0 || 0xA0 ≤ second) &&
    (first != 0xF0 || 0x90 ≤ second) && (first != 0xF4 || second < 0x90)

def isUnfinished : List UInt8 → Bool
  | [a] => 0xC2 ≤ a && a ≤ 0xF4
  | [a, b] => 0xE0 ≤ a && a ≤ 0xF4 && isSecondByte a b
  | [a, b, c] => 0xF0 ≤ a && a ≤ 0xF4 && isSecondByte a b && 0x80 ≤ c && c < 0xC0
  | _ => false

def decodeStart (bytes : List UInt8) : Option (List Char × List UInt8) :=
  let unfinished := ([3, 2, 1].map fun n => bytes.drop (bytes.length - n)).find? isUnfinished
  let tail := unfinished.getD []
  (decodeUtf8 (bytes.take (bytes.length - tail.length))).map fun chars => (chars, tail)

structure Decoder where
  bytes : List UInt8
  unfinished : List UInt8 := []
  carriage : Bool := false
  ready : List Char := []
  /-- The numbers of bytes and characters of the last piece, if it had any characters. -/
  density? : Option (Nat × Nat) := none
  deriving Repr, DecidableEq

namespace Decoder

def leastPiece : Nat := 8192

def blockSize : Nat := 4096

/-- The size of the next piece when so many characters are wanted: more than the least size if the last piece
had so many bytes for each character that the least size would not do. -/
def pieceSize (d : Decoder) (wanted : Nat) : Nat :=
  match d.density? with
  | some (bytes, chars) => max leastPiece (max wanted (wanted * bytes / chars))
  | none => max leastPiece wanted

def unify (carriage final : Bool) (chars : List Char) : List Char × Bool :=
  let chars := if carriage && (final || !chars.isEmpty) then '\r' :: chars else chars
  if !final && chars.getLast? == some '\r' then (unifyBreaks chars.dropLast, true)
  else (unifyBreaks chars, carriage && chars.isEmpty)

def nextPiece (d : Decoder) (wanted : Nat) : Option (Decoder × Bool) := do
  let size := d.pieceSize wanted
  let piece := d.bytes.take size
  let final := piece.isEmpty
  let (chars, unfinished) ←
    if final then (decodeUtf8 d.unfinished).map fun chars => (chars, [])
    else decodeStart (d.unfinished ++ piece)
  let (ready, carriage) := unify d.carriage final chars
  return ({ bytes := d.bytes.drop size, unfinished, carriage, ready
            density? := if ready.isEmpty then none else some (piece.length, ready.length) },
    !final || !ready.isEmpty)

def take : (fuel : Nat) → (wanted : Nat) → Decoder → Option (List Char × Decoder)
  | 0, _, d => some ([], d)
  | fuel + 1, wanted, d => do
    let chars := d.ready.take wanted
    let d := { d with ready := d.ready.drop wanted }
    if chars.length = wanted then return (chars, d)
    else
      let (d, more) ← d.nextPiece (wanted - chars.length)
      if more then
        let (rest, d) ← take fuel (wanted - chars.length) d
        return (chars ++ rest, d)
      else return (chars, d)

def blocks : (fuel : Nat) → Decoder → List (List Char) × Bool
  | 0, _ => ([], false)
  | fuel + 1, d =>
    match d.take (d.bytes.length + 3) blockSize with
    | none => ([], true)
    | some ([], _) => ([], false)
    | some (block, d) =>
      let (rest, broken) := blocks fuel d
      (block :: rest, broken)

end Decoder

def decodeBlocks (bytes : List UInt8) : List (List Char) × Bool :=
  Decoder.blocks (bytes.length + 2) { bytes }

end SlideDeck.Text
