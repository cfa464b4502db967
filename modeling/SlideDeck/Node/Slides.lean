import SlideDeck.Node.Atom
import SlideDeck.Overlay

/-! What the qualifier of a node is set to: a number, or a truth value, which counts as 1 or 0 and is written as
a word. A text names no slides, and a node that is qualified with one is not written. -/

namespace SlideDeck

inductive Slides where
  | int (n : Int)
  | bool (value : Bool)
  | text (value : String)
  deriving Repr, DecidableEq

namespace Slides

instance (n : Nat) : OfNat Slides n where
  ofNat := int n

def ofAtom? : Atom → Option Slides
  | .null => none
  | .bool value => some (bool value)
  | .int n => some (int n)
  | .text value => some (text value)

def atom : Slides → Atom
  | int n => .int n
  | bool value => .bool value
  | text value => .text value

def isText : Slides → Bool
  | text _ => true
  | int _ | bool _ => false

def range : Slides → String
  | int n => Overlay.range n
  | bool value => "<" ++ (Atom.bool value).shown ++ "->"
  | text _ => ""

def command : Slides → String
  | int n => Overlay.command n
  | bool value => "\\onslide<" ++ (Atom.bool value).shown ++ "->"
  | text _ => ""

end Slides

end SlideDeck
