import SlideDeck.Yaml.Graph.Basic
import SlideDeck.Yaml.Token.Lexer

/-! Reading nodes from tokens: properties, anchors and scalars. -/

namespace SlideDeck.Yaml

/-- The tokens that are left, the fault at their end, and what is known of the document so far. -/
structure Reader where
  tokens : List Token
  fault? : Option Fault
  graph : Graph := #[]
  anchors : List (String × Nat) := []
  handles : List (String × String) := []
  deriving Repr

abbrev Read := StateT Reader (Except Fault)

namespace Read

def peek : Read Token := do
  let r ← get
  match r.tokens with
  | t :: _ => return t
  | [] => throw (r.fault?.getD .malformed)

def skip : Read Unit := modify fun r => { r with tokens := r.tokens.tail }

def fail {α : Type} : Read α := throw .malformed

def expect (t : Token) : Read Unit := do
  if (← peek) = t then skip else fail

def add (node : GraphNode) : Read Nat :=
  modifyGet fun r => (r.graph.size, { r with graph := r.graph.push node })

def addEmpty : Read Nat := add Graph.emptyNode

structure Properties where
  anchor? : Option String := none
  tag? : Option String := none
  deriving Repr, DecidableEq

def Properties.isEmpty (p : Properties) : Bool := p.anchor?.isNone && p.tag?.isNone

def address (handle? : Option String) (suffix : String) : Read String := do
  match handle? with
  | none => return suffix
  | some handle =>
    match (← get).handles.lookup handle with
    | some start => return start ++ suffix
    | none => fail

def takeAnchor : Read (Option String) := do
  match ← peek with
  | .anchor name =>
    skip
    return some name
  | _ => return none

def takeTag : Read (Option (Option String × String)) := do
  match ← peek with
  | .tag handle? suffix =>
    skip
    return some (handle?, suffix)
  | _ => return none

def properties : Read Properties := do
  let (anchor?, tag?) ←
    match ← takeAnchor with
    | some name => pure (some name, ← takeTag)
    | none =>
      match ← takeTag with
      | some tag => pure (← takeAnchor, some tag)
      | none => pure (none, none)
  match tag? with
  | some (handle?, suffix) => return { anchor?, tag? := some (← address handle? suffix) }
  | none => return { anchor? }

def nameAnchor (anchor? : Option String) (place : Nat) : Read Unit := do
  match anchor? with
  | none => return
  | some name =>
    if ((← get).anchors.lookup name).isSome then fail
    else modify fun r => { r with anchors := (name, place) :: r.anchors }

def anchored (name : String) : Read Nat := do
  match (← get).anchors.lookup name with
  | some place => return place
  | none => fail

def scalarTag (tag? : Option String) (plain : Bool) (text : CodeText) : Tag :=
  match tag? with
  | none => if plain then implicitTag text.chars else .str
  | some "!" => implicitTag text.chars
  | some address => .ofAddress address

def collectionTag (tag? : Option String) (standard : Tag) : Tag :=
  match tag? with
  | none | some "!" => standard
  | some address => .ofAddress address

def scalar (p : Properties) (text : CodeText) (plain : Bool) : Read Nat := do
  let place ← add { tag := scalarTag p.tag? plain text, content := .scalar text }
  nameAnchor p.anchor? place
  return place

def nameless (p : Properties) : Read Nat := if p.isEmpty then fail else scalar p ⟨[]⟩ true

/-- Adds a collection and names it before its parts are read, which may refer to it. -/
def collection (p : Properties) (standard : Tag) (empty : GraphContent) (parts : Read GraphContent) :
    Read Nat := do
  let place ← add { tag := collectionTag p.tag? standard, content := empty }
  nameAnchor p.anchor? place
  let content ← parts
  modify fun r => { r with graph := r.graph.setContent place content }
  return place

def sequence (p : Properties) (items : Read (List Nat)) : Read Nat :=
  collection p .seq (.sequence []) (.sequence <$> items)

def mapping (p : Properties) (pairs : Read (List (Nat × Nat))) : Read Nat :=
  collection p .map (.mapping []) (.mapping <$> pairs)

end Read

end SlideDeck.Yaml
