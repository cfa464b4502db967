import SlideDeck.Text.CodeText
import SlideDeck.Yaml.Tag

namespace SlideDeck.Yaml

inductive GraphContent where
  | scalar (text : CodeText)
  | sequence (items : List Nat)
  | mapping (pairs : List (Nat × Nat))
  deriving Repr, DecidableEq

structure GraphNode where
  tag : Tag
  content : GraphContent
  deriving Repr, DecidableEq

/-- The nodes of a document by their places. An alias is another edge to the node of its anchor, so that a
node may lie below itself. -/
abbrev Graph := Array GraphNode

namespace Graph

def emptyNode : GraphNode := { tag := .null, content := .scalar ⟨[]⟩ }

def node (g : Graph) (place : Nat) : GraphNode := g[place]?.getD emptyNode

def setContent (g : Graph) (place : Nat) (content : GraphContent) : Graph :=
  g.modify place fun node => { node with content }

def setTag (g : Graph) (place : Nat) (tag : Tag) : Graph :=
  g.modify place fun node => { node with tag }

end Graph

end SlideDeck.Yaml
