import SlideDeck.Text.Piecewise
import SlideDeck.Yaml.Fault

/-! The text of a document as far as it can be read. A fault in a file lies behind the characters before it,
and is met only when the reading comes to it. -/

namespace SlideDeck.Yaml

def isAllowed (c : Char) : Bool :=
  let n := c.toNat
  n == 0x09 || n == 0x0A || (0x20 ≤ n && n ≤ 0x7E) || n == 0x85 || (0xA0 ≤ n && n ≤ 0xFFFD) ||
    0x10000 ≤ n

/-- The characters that can be read, and the fault behind them if they are not all. -/
structure Source where
  text : List Char
  fault? : Option Fault := none
  deriving Repr, DecidableEq

namespace Source

def ofBlocks (last? : Option Fault) : List (List Char) → Source
  | [] => { text := [], fault? := last? }
  | block :: rest =>
    if block.all isAllowed then
      let source := ofBlocks last? rest
      { source with text := block ++ source.text }
    else { text := [], fault? := some .malformed }

/-- The text of a file. The first two blocks are read together. -/
def ofBytes (bytes : List UInt8) : Source :=
  let (blocks, broken) := Text.decodeBlocks bytes
  let last? := if broken then some Fault.encoding else none
  match blocks with
  | first :: second :: rest => ofBlocks last? ((first ++ second) :: rest)
  | blocks => if broken then { text := [], fault? := last? } else ofBlocks none blocks

end Source

end SlideDeck.Yaml
