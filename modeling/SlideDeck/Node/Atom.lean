import SlideDeck.Text.Quoted

namespace SlideDeck

/-! Values that attributes are set to. -/

inductive Atom where
  | null
  | bool (value : Bool)
  | int (value : Int)
  | text (value : String)
  deriving Repr, DecidableEq

namespace Atom

def ofText? : Option String → Atom
  | none => null
  | some value => text value

def typeName : Atom → String
  | null => "NoneType"
  | bool _ => "bool"
  | int _ => "int"
  | text _ => "str"

def number? : Atom → Option Int
  | bool value => some (if value then 1 else 0)
  | int value => some value
  | null | text _ => none

-- numbers are compared by value, whatever their form
def same (a b : Atom) : Bool :=
  match a.number?, b.number? with
  | some m, some n => m == n
  | none, none => a == b
  | _, _ => false

def isFalse : Atom → Bool
  | null => true
  | bool value => !value
  | int value => value == 0
  | text value => value.isEmpty

def isText : Atom → Bool
  | text _ => true
  | null | bool _ | int _ => false

def write : Atom → String
  | null => "None"
  | bool value => if value then "True" else "False"
  | int value => toString value
  | text value => Text.quote value

def shown : Atom → String
  | text value => value
  | value => value.write

end Atom

end SlideDeck
