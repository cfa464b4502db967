import SlideDeck.Node.Atom
import SlideDeck.Node.Kind
import SlideDeck.Settings.Loose

/-! Values as answers show them. -/

namespace SlideDeck.Script

/-- How an answer points at an object: by its type, the first name bound to it, and its kind if it is a
node. -/
structure Reference where
  typeName : String
  name? : Option String := none
  kind? : Option Kind := none
  deriving Repr, DecidableEq

inductive Listing where
  | list
  | tuple
  deriving Repr, DecidableEq

namespace Listing

def typeName : Listing → String
  | list => "list"
  | tuple => "tuple"

def write : Listing → List String → String
  | list, items => Text.bracketList items
  | tuple, [item] => "(" ++ item ++ ",)"
  | tuple, items => "(" ++ ", ".intercalate items ++ ")"

end Listing

inductive Value where
  | atom (value : Atom)
  | kind (value : Kind)
  | settings (value : LooseSettings)
  | package (value : PackageLine)
  | scalar (value : Scalar)
  | reference (value : Reference)
  | list (form : Listing) (items : List Value)
  | record (entries : List (String × Value))
  deriving Repr

namespace Value

def text (value : String) : Value := atom (.text value)

def texts (values : List String) : Value := list .list (values.map text)

def typeName : Value → String
  | atom value => value.typeName
  | kind _ => "NodeKind"
  | settings _ => "BeamerConfig"
  | package _ => "PackageConfig"
  | scalar value => value.typeName
  | reference value => value.typeName
  | list form _ => form.typeName
  | record _ => "dict"

def ofScalar : Scalar → Value
  | .null => atom .null
  | .bool value => atom (.bool value)
  | .int value => atom (.int value)
  | .text value => text value.shown
  | value => scalar value

mutual

def ofDatum : Datum → Value
  | .scalar value => ofScalar value
  | .sequence items => list .list (ofItems items)
  | .set items => list .list (items.map ofScalar)
  | .mapping entries => record (ofEntries entries)

def ofItems : List Datum → List Value
  | [] => []
  | item :: rest => ofDatum item :: ofItems rest

def ofEntries : List (Scalar × Datum) → List (String × Value)
  | [] => []
  | (.text key, value) :: rest => (key.shown, ofDatum value) :: ofEntries rest
  | (key, value) :: rest => (key.write, ofDatum value) :: ofEntries rest

end

mutual

def write : Value → String
  | atom value => value.write
  | kind value => "<NodeKind." ++ value.constant ++ ": " ++ Text.quote value.label ++ ">"
  | settings value => "BeamerConfig(" ++ value.describe ++ ")"
  | package value => value.describe
  | scalar value => value.write
  | reference value => "<" ++ value.typeName ++ ">"
  | list form items => form.write (writeItems items)
  | record entries => "\x7b" ++ ", ".intercalate (writeEntries entries) ++ "\x7d"

def writeItems : List Value → List String
  | [] => []
  | item :: rest => item.write :: writeItems rest

def writeEntries : List (String × Value) → List String
  | [] => []
  | (name, value) :: rest => (Text.quote name ++ ": " ++ value.write) :: writeEntries rest

end

mutual

def same : Value → Value → Bool
  | atom a, atom b => a.same b
  | kind a, kind b => a == b
  | kind a, atom (.text b) | atom (.text b), kind a => a.label == b
  | settings a, settings b => a.same b
  | package a, package b => a == b
  | scalar a, scalar b => a.sameKey b
  | reference a, reference b => a == b
  | list f xs, list g ys => f == g && sameItems xs ys
  | record xs, record ys => xs.length == ys.length && sameEntries xs ys
  | _, _ => false

def sameItems : List Value → List Value → Bool
  | [], [] => true
  | x :: xs, y :: ys => x.same y && sameItems xs ys
  | _, _ => false

def sameEntries : List (String × Value) → List (String × Value) → Bool
  | [], _ => true
  | (name, value) :: rest, ys =>
    (match ys.lookup name with
      | some other => value.same other
      | none => false) && sameEntries rest ys

end

end Value

end SlideDeck.Script
