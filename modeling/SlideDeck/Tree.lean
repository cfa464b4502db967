import SlideDeck.Node.Basic

namespace SlideDeck

inductive Tree where
  | node (id : NodeId) (node : Node) (children : List Tree)

abbrev Forest := List Tree

namespace Tree

def id : Tree → NodeId
  | node id _ _ => id

def root : Tree → Node
  | node _ root _ => root

def children : Tree → Forest
  | node _ _ children => children

def kind (t : Tree) : Kind := t.root.kind

end Tree

mutual

def Tree.nodes : Tree → List Node
  | .node _ root children => root :: Forest.nodes children

def Forest.nodes : Forest → List Node
  | [] => []
  | tree :: rest => tree.nodes ++ Forest.nodes rest

end

mutual

def Tree.holds (kind : Kind) : Tree → Bool
  | .node _ _ children => Forest.holds kind children

def Forest.holds (kind : Kind) : Forest → Bool
  | [] => false
  | tree :: rest => tree.kind == kind || tree.holds kind || Forest.holds kind rest

end

end SlideDeck
