import SlideDeck.Datum.Scalar
import SlideDeck.Text.Base64
import SlideDeck.Yaml.Graph.Basic
import SlideDeck.Yaml.Number

/-! The values of nodes without parts, by their types. -/

namespace SlideDeck.Yaml

def readBool (text : List Char) : Except Fault Bool :=
  let word := text.map Number.lower
  if isWord ["yes", "true", "on"] word then .ok true
  else if isWord ["no", "false", "off"] word then .ok false
  else .error .truth

def readBytes (text : List Char) : Except Fault (List UInt8) :=
  if text.all (·.toNat < 0x80) then
    match Text.decodeBase64 text with
    | some bytes => .ok bytes
    | none => .error .malformed
  else .error .malformed

def readMoment (text : List Char) : Except Fault Scalar :=
  match Timestamp.read? (dropLastBreak text) with
  | none => .error .moment
  | some stamp =>
    match stamp.time? with
    | none => if stamp.date.isValid then .ok (.date stamp.date) else .error .number
    | some (hour, minute, second, microsecond, offset?) =>
      let moment : Moment := { date := stamp.date, hour, minute, second, microsecond, offset? }
      if moment.isValid then .ok (.moment moment) else .error .number

/-- The word for what is no number has one value wherever it stands. Any other float that is no number has a
value of its own. -/
def readFloat (place : Nat) (text : List Char) : Except Fault Scalar := do
  let x ← Number.float text
  return if x = .nan ∧ !Number.isNanWord text then .distinctNan place else .float x

def scalarOf (tag : Tag) (place : Nat) (text : CodeText) : Except Fault Scalar :=
  match tag with
  | .null => .ok .null
  | .bool => .bool <$> readBool text.chars
  | .int => .int <$> Number.int text.chars
  | .float => readFloat place text.chars
  | .binary => .bytes <$> readBytes text.chars
  | .timestamp => readMoment text.chars
  | .str => .ok (.text text)
  | .merge | .value | .unknown | .omap | .pairs | .set | .seq | .map => .error .malformed

namespace Graph

/-- The text of a node. The value of the key `=` stands for a mapping. -/
def textOf (g : Graph) : (fuel : Nat) → (place : Nat) → Except Fault CodeText
  | 0, _ => .error .unending
  | fuel + 1, place =>
    match (g.node place).content with
    | .scalar text => .ok text
    | .sequence _ => .error .malformed
    | .mapping pairs =>
      match pairs.find? fun pair => (g.node pair.1).tag = .value with
      | some (_, value) => g.textOf fuel value
      | none => .error .malformed

def isMapping (g : Graph) (place : Nat) : Bool :=
  match (g.node place).content with
  | .mapping _ => true
  | _ => false

/-- The value of a node of a type without parts. A way through more nodes than there are is unending. -/
def scalar (g : Graph) (place : Nat) : Except Fault Scalar := do
  let tag := (g.node place).tag
  match tag with
  | .merge | .value | .unknown => .error .malformed
  | _ =>
    let text ← g.textOf (g.size + 1) place
    if tag = .timestamp ∧ g.isMapping place then .error .momentOfMapping
    else scalarOf tag place text

end Graph

end SlideDeck.Yaml
