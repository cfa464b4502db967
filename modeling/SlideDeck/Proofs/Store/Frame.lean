import SlideDeck.Proofs.Sketch
import SlideDeck.Proofs.Store.Settling

/-! What is below a node decides what a walk below it comes to and what is written of it. Two stores that agree
there, up to who holds the nodes, show the same of it, whatever else they hold. -/

namespace SlideDeck

def Node.detached (n : Node) : Node := { n with parent? := none }

lemma Node.eq_of_detached {n m : Node} (h : m.detached = n.detached) : m = { n with parent? := m.parent? } := by
  cases n
  cases m
  cases h
  rfl

lemma Node.alike_of_detached {n m : Node} (h : m.detached = n.detached) : n.Alike m := by
  rw [Node.eq_of_detached h]
  exact ⟨rfl, rfl, fun _ => rfl, rfl, fun _ => rfl⟩

namespace Store

/-- Two stores have the same nodes in a region, up to who holds them, and nothing in it leads out of it. -/
structure AgreesOn (s t : Store) (inside : NodeId → Prop) : Prop where
  node (m : NodeId) : inside m → (t.node m).detached = (s.node m).detached
  closed (m c : NodeId) : inside m → c ∈ s.children m → inside c

namespace AgreesOn

variable {s t : Store} {inside : NodeId → Prop} {m n : NodeId}

section

variable (h : s.AgreesOn t inside)

include h

lemma node_eq (hm : inside m) : t.node m = { s.node m with parent? := t.parent? m } :=
  Node.eq_of_detached (h.node m hm)

lemma kind (hm : inside m) : t.kind m = s.kind m := by
  rw [Store.kind, h.node_eq hm]
  rfl

lemma children (hm : inside m) : t.children m = s.children m := by
  rw [Store.children, h.node_eq hm]
  rfl

lemma hasWithin (k : Kind) (depth : ℕ) (hm : inside m) : t.hasWithin k depth m = s.hasWithin k depth m := by
  induction depth generalizing m with
  | zero => rfl
  | succ depth ih =>
    rw [Store.hasWithin, Store.hasWithin, h.children hm]
    refine anyM_congr fun c hc => ?_
    have hinside := h.closed m c hm hc
    rw [h.kind hinside, ih hinside]

variable (hle : s.size ≤ t.size)

include hle

lemma has? (k : Kind) (hm : inside m) : t.has? k m = s.has? k m := by
  rw [Store.has?, h.hasWithin k _ hm, hasWithin_eq_has? (Nat.lt_succ_of_le hle)]

lemma sketch (hasStep : Bool) (depth : ℕ) (hm : inside m) : t.sketch hasStep depth m = s.sketch hasStep depth m := by
  induction depth generalizing m with
  | zero => rfl
  | succ depth ih =>
    rw [Store.sketch, Store.sketch, h.children hm, gather_congr fun c hc => ih (h.closed m c hm hc)]
    exact sketchAround_congr (Node.alike_of_detached (h.node m hm)) (h.has? hle .code hm) _ _

theorem rendering (step? : Option String) (hm : inside m) : t.rendering step? m = s.rendering step? m := by
  rw [Store.rendering, Store.rendering, h.kind hm, h.sketch hle _ _ hm, sketch_eq (Nat.lt_succ_of_le hle)]

end

end AgreesOn

end Store

end SlideDeck
