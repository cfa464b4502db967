import SlideDeck.Proofs.Tree

/-! Trees whose nodes are at other places. What is written of a tree does not depend on the places. -/

namespace SlideDeck

variable (f : NodeId → NodeId)

def Content.rename : Content → Content
  | .code title language listing => .code title language (f listing)
  | content => content

def Node.rename (n : Node) : Node :=
  { n with content := n.content.rename f, parent? := n.parent?.map f, children := n.children.map f }

mutual

def Tree.rename : Tree → Tree
  | .node id root children => .node (f id) (root.rename f) (Forest.rename children)

def Forest.rename : Forest → Forest
  | [] => []
  | tree :: rest => tree.rename :: Forest.rename rest

end

namespace Content

@[simp] lemma kind_rename (c : Content) : (c.rename f).kind = c.kind := by
  cases c <;> rfl

@[simp] lemma arguments?_rename (c : Content) : (c.rename f).arguments? = c.arguments? := by
  cases c <;> rfl

lemma mapArguments_rename (g : Arguments → Arguments) (c : Content) :
    (c.rename f).mapArguments g = (c.mapArguments g).rename f := by
  cases c <;> rfl

@[simp] lemma rename_id (c : Content) : c.rename id = c := by
  cases c <;> rfl

end Content

namespace Node

@[simp] lemma kind_rename (n : Node) : (n.rename f).kind = n.kind := n.content.kind_rename f

@[simp] lemma rename_id (n : Node) : n.rename id = n := by
  simp [rename]

lemma seeksCode_rename (n : Node) : (n.rename f).seeksCode = n.seeksCode := by
  obtain ⟨content, foreign?, parent?, slides?, children, odd⟩ := n
  cases content <;> rfl

lemma halt?_rename (hasStep : Bool) (n : Node) : (n.rename f).halt? hasStep = n.halt? hasStep := by
  simp only [halt?, halts, kind_rename]
  rfl

lemma failsLate_rename (n : Node) : (n.rename f).failsLate = n.failsLate := by
  simp only [failsLate, kind_rename]
  rfl

lemma layout_rename (n : Node) (holdsCode : Bool) :
    Layout.node (n.rename f) holdsCode = Layout.node n holdsCode := by
  obtain ⟨content, foreign?, parent?, slides?, children, odd⟩ := n
  cases content <;> rfl

lemma alike_rename (n : Node) : n.Alike (n.rename f) where
  kind := n.kind_rename f
  seeksCode := n.seeksCode_rename f
  halt? hasStep := n.halt?_rename f hasStep
  failsLate := n.failsLate_rename f
  layout := n.layout_rename f

end Node

@[simp] lemma Tree.kind_rename (t : Tree) : (t.rename f).kind = t.kind := by
  cases t with
  | node id root children => exact root.kind_rename f

end SlideDeck
