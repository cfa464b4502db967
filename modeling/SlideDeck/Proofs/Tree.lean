import Mathlib.Data.List.Nodup
import SlideDeck.Proofs.Sketch

/-! Forests as lists of trees. What is defined by recursion over forests is a list operation on them. -/

namespace SlideDeck

mutual

def Tree.ids : Tree → List NodeId
  | .node id _ children => id :: Forest.ids children

def Forest.ids : Forest → List NodeId
  | [] => []
  | tree :: rest => tree.ids ++ Forest.ids rest

end

lemma Forest.ids_eq (f : Forest) : Forest.ids f = f.flatMap Tree.ids := by
  induction f with
  | nil => rfl
  | cons t rest ih => rw [Forest.ids, ih, List.flatMap_cons]

lemma Forest.pieces_eq (f : Forest) : Forest.pieces f = f.flatMap Tree.pieces := by
  induction f with
  | nil => rfl
  | cons t rest ih => rw [Forest.pieces, ih, List.flatMap_cons]

lemma Forest.holds_eq (kind : Kind) (f : Forest) :
    Forest.holds kind f = f.any fun t => t.kind == kind || t.holds kind := by
  induction f with
  | nil => rfl
  | cons t rest ih => rw [Forest.holds, ih, List.any_cons]

lemma Forest.nodes_eq (f : Forest) : Forest.nodes f = f.flatMap Tree.nodes := by
  induction f with
  | nil => rfl
  | cons t rest ih => rw [Forest.nodes, ih, List.flatMap_cons]

lemma Forest.nodes_append (f g : Forest) : Forest.nodes (f ++ g) = Forest.nodes f ++ Forest.nodes g := by
  rw [Forest.nodes_eq, List.flatMap_append, ← Forest.nodes_eq, ← Forest.nodes_eq]

lemma Forest.isWritable_append (hasStep : Bool) (f g : Forest) :
    Forest.isWritable hasStep (f ++ g) = (Forest.isWritable hasStep f && Forest.isWritable hasStep g) := by
  rw [Forest.isWritable, Forest.nodes_append, List.all_append, Forest.isWritable, Forest.isWritable]

lemma Tree.isWritable_node (hasStep : Bool) (id : NodeId) (root : Node) (children : Forest) :
    (Tree.node id root children).isWritable hasStep = (root.isWritable hasStep && Forest.isWritable hasStep children) :=
  rfl

structure Node.Alike (m n : Node) : Prop where
  kind : n.kind = m.kind
  seeksCode : n.seeksCode = m.seeksCode
  halt? (hasStep : Bool) : n.halt? hasStep = m.halt? hasStep
  failsLate : n.failsLate = m.failsLate
  layout (holdsCode : Bool) : Layout.node n holdsCode = Layout.node m holdsCode

lemma Store.sketchAround_congr {s t : Store} {m n : NodeId} (halike : (s.node m).Alike (t.node n))
    (hhas : t.has? .code n = s.has? .code m) (hasStep : Bool) (below : Except Obstacle (Option (List Piece))) :
    t.sketchAround hasStep n below = s.sketchAround hasStep m below := by
  simp only [sketchAround, codeBelow, hhas, halike.kind, halike.seeksCode, halike.halt?, halike.failsLate, halike.layout]

lemma Forest.mem_ids {f : Forest} {m : NodeId} : m ∈ Forest.ids f ↔ ∃ t ∈ f, m ∈ t.ids := by
  rw [Forest.ids_eq, List.mem_flatMap]

lemma Tree.id_mem_ids (t : Tree) : t.id ∈ t.ids := by
  cases t
  exact List.mem_cons_self

end SlideDeck
