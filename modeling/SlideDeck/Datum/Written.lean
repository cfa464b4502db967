import SlideDeck.Datum.Basic

/-! Data written out, compared and gone through by their items. -/

namespace SlideDeck

namespace Scalar

def typeName : Scalar → String
  | null => "NoneType"
  | bool _ => "bool"
  | int _ => "int"
  | float _ | distinctNan _ => "float"
  | text _ => "str"
  | bytes _ => "bytes"
  | date _ => "date"
  | moment _ => "datetime"

end Scalar

namespace Datum

def typeName : Datum → String
  | scalar value => value.typeName
  | sequence _ => "list"
  | set _ => "set"
  | mapping _ => "dict"

/-- What going through a datum yields: the items of a list or a set, the keys of a mapping, the characters of
a text. -/
def items? : Datum → Option (List Datum)
  | scalar (.text value) => some (value.points.map fun point => text ⟨[point]⟩)
  | scalar (.bytes value) => some (value.map fun b => scalar (.int b.toNat))
  | scalar _ => none
  | sequence items => some items
  | set items => some (items.map scalar)
  | mapping entries => some (entries.map fun entry => scalar entry.1)

mutual

def write : Datum → String
  | scalar value => value.write
  | sequence items => Text.bracketList (writeItems items)
  | set [] => "set()"
  | set (item :: rest) => "\x7b" ++ ", ".intercalate ((item :: rest).map Scalar.write) ++ "\x7d"
  | mapping entries => "\x7b" ++ ", ".intercalate (writeEntries entries) ++ "\x7d"

def writeItems : List Datum → List String
  | [] => []
  | item :: rest => item.write :: writeItems rest

def writeEntries : List (Scalar × Datum) → List String
  | [] => []
  | (key, value) :: rest => (key.write ++ ": " ++ value.write) :: writeEntries rest

end

mutual

def same : Datum → Datum → Bool
  | scalar a, scalar b => a.sameKey b
  | sequence xs, sequence ys => sameItems xs ys
  | set xs, set ys => xs.length == ys.length && xs.all fun x => ys.any x.sameKey
  | mapping xs, mapping ys => xs.length == ys.length && sameEntries xs ys
  | _, _ => false

def sameItems : List Datum → List Datum → Bool
  | [], [] => true
  | x :: xs, y :: ys => x.same y && sameItems xs ys
  | _, _ => false

def sameEntries : List (Scalar × Datum) → List (Scalar × Datum) → Bool
  | [], _ => true
  | (key, value) :: rest, ys =>
    (match ys.find? fun entry => entry.1.sameKey key with
      | some entry => value.same entry.2
      | none => false) && sameEntries rest ys

end

end Datum

end SlideDeck
