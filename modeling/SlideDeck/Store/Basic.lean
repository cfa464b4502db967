import SlideDeck.Node.Draft

namespace SlideDeck

structure Store where
  nodes : Array Node := #[]
  deriving Repr, DecidableEq

namespace Store

def size (s : Store) : Nat := s.nodes.size

/-- The node at a place; beyond the end every place reads as an empty header. -/
def node (s : Store) (n : NodeId) : Node := s.nodes.getD n { content := .header }

def kind (s : Store) (n : NodeId) : Kind := (s.node n).kind

def children (s : Store) (n : NodeId) : List NodeId := (s.node n).children

def parent? (s : Store) (n : NodeId) : Option NodeId := (s.node n).parent?

def modify (s : Store) (n : NodeId) (f : Node → Node) : Store := { nodes := s.nodes.modify n f }

def take (s : Store) (size : Nat) : Store := { nodes := s.nodes.take size }

def push (s : Store) (n : Node) : Store := { nodes := s.nodes.push n }

/-- Makes the node of a draft. Code gets its listing as its only child at once. -/
def create (s : Store) (draft : Draft) : Store × NodeId :=
  let id := s.size
  let content := draft.content (id + 1)
  match draft.listing? with
  | none => (s.push { content }, id)
  | some listing =>
    ((s.push { content, children := [id + 1] }).push { content := listing, parent? := some id }, id)

end Store

end SlideDeck
