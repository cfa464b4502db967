import SlideDeck.Datum.Moment
import SlideDeck.Number.Shortest
import SlideDeck.Text.Quoted

namespace SlideDeck

inductive Scalar where
  | null
  | bool (value : Bool)
  | int (value : Int)
  | float (value : Binary64)
  /-- A float that is no number and no other value, made at a place of its own. -/
  | distinctNan (place : Nat)
  | text (value : CodeText)
  | bytes (value : List UInt8)
  | date (value : Date)
  | moment (value : Moment)
  deriving Repr, DecidableEq

namespace Scalar

def toInt? : Scalar → Option Int
  | bool value => some (if value then 1 else 0)
  | int value => some value
  | float value => value.toInt?
  | _ => none

/-- Whether two scalars are the same key. Numbers are compared by value, whatever their form. -/
def sameKey (a b : Scalar) : Bool :=
  match a.toInt?, b.toInt? with
  | some m, some n => m == n
  | none, none =>
    match a, b with
    | moment x, moment y => x.same y
    | _, _ => a == b
  | _, _ => false

def isFalse : Scalar → Bool
  | null => true
  | bool value => !value
  | int value => value == 0
  | float value => value.isZero
  | text value => value.isEmpty
  | bytes value => value.isEmpty
  | distinctNan _ | date _ | moment _ => false

def quoteByte (mark : Char) (b : UInt8) : List Char :=
  let c := Char.ofNat b.toNat
  if c = mark ∨ c = '\\' then ['\\', c]
  else if c = '\n' then ['\\', 'n']
  else if c = '\r' then ['\\', 'r']
  else if c = '\t' then ['\\', 't']
  else if 0x20 ≤ b ∧ b < 0x7F then [c]
  else '\\' :: 'x' :: Text.hexDigits 2 b.toNat

def quoteBytes (value : List UInt8) : String :=
  let mark := Text.quoteMark (value.map fun b => Char.ofNat b.toNat)
  String.ofList ('b' :: mark :: value.flatMap (quoteByte mark) ++ [mark])

def write : Scalar → String
  | null => "None"
  | bool value => if value then "True" else "False"
  | int value => toString value
  | float value => value.write
  | distinctNan _ => Binary64.nan.write
  | text value => Text.quote value
  | bytes value => quoteBytes value
  | date value => value.write
  | moment value => value.write

end Scalar

end SlideDeck
