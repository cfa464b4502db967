import SlideDeck.Store.Basic
import SlideDeck.Tree

/-! Walks below a node. A walk that goes round a cycle never ends; it is cut at a depth that no path
without a repeated node reaches, and then has no result. -/

namespace SlideDeck.Store

/-- Searches below a node for a kind, depth first, each child before what is below it, up to the first hit.
There is no answer where the depth runs out. -/
def hasWithin (s : Store) (kind : Kind) : (depth : Nat) → NodeId → Option Bool
  | 0, _ => none
  | depth + 1, n => (s.children n).anyM fun child =>
      if s.kind child = kind then some true else s.hasWithin kind depth child

def has? (s : Store) (kind : Kind) (n : NodeId) : Option Bool := s.hasWithin kind (s.size + 1) n

def treeWithin (s : Store) : (depth : Nat) → NodeId → Option Tree
  | 0, _ => none
  | depth + 1, n => ((s.children n).mapM (s.treeWithin depth)).map (.node n (s.node n))

def tree? (s : Store) (n : NodeId) : Option Tree := s.treeWithin (s.size + 1) n

end SlideDeck.Store
