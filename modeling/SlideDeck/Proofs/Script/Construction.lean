import SlideDeck.Proofs.Store.Reading
import SlideDeck.Script.Construction

/-! How constructions that attach a node begin and how they end. -/

namespace SlideDeck.Script

def Method.ofPlace : Place → Method
  | .first => .insertContent
  | .last => .addContent

def Session.ownedFault (s : Session) (n parent : NodeId) : Fault :=
  .owned { node := s.store.kind n, parent := s.store.kind parent }

variable {s : Session} {c n p : NodeId}

lemma Session.checkFree_of_free (h : s.store.parent? n = none) : s.checkFree n = .ok () := by
  simp [checkFree, Store.owned?, h]

lemma Session.checkFree_of_parent? (h : s.store.parent? n = some p) :
    s.checkFree n = .error (s.ownedFault n p) := by
  simp [checkFree, Store.owned?, h, ownedFault]

lemma adopt_start {e : Entity} {on node : String} {place : Place} (hon : s.lookup on = .ok e)
    (hc : s.containerFor e (.ofPlace place) = .ok c) (hnode : s.lookup node = .ok (.node n)) :
    (Construction.adopt on node place).start s =
      (s.checkFree n).map fun _ => (s, { subject := .node n, target? := some (c, place) }) := by
  cases place <;> simp only [Method.ofPlace] at hc <;>
    simp only [Construction.start, hon, hnode, hc, bind, Except.bind, Entity.node] <;>
    cases s.checkFree n <;> rfl

lemma child_start {e : Entity} {on : String} {builder : Builder} (hon : s.lookup on = .ok e)
    (hc : s.containerFor e builder.method = .ok c) :
    (Construction.child on builder).start s =
      .ok (s.withStore (s.store.create (builder.draft (s.store.kind c))).1,
        { subject := .node s.store.size, target? := some (c, .last) }) := by
  simp only [Construction.start, hon, hc, bind, Except.bind, Store.create_snd]

lemma Pending.finish_node (s : Session) (c n : NodeId) (place : Place) :
    Pending.finish { subject := .node n, target? := some (c, place) } s =
      (s.checkFree n).map fun _ => s.withStore (s.store.link c n place) := by
  simp only [Pending.finish, Entity.node, bind, Except.bind]
  cases s.checkFree n <;> rfl

end SlideDeck.Script
