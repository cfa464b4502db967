import SlideDeck.Proofs.Script.DeckPlanting

/-! Attaching a node commutes with whatever is done to other containers, and with changes of the node that leave
its parent alone. -/

namespace SlideDeck

namespace Node

def heldBy (c : NodeId) (node : Node) : Node := { node with parent? := some c }

def holding (place : Place) (n : NodeId) (node : Node) : Node :=
  { node with children := place.insert n node.children }

def IgnoresParent (f : Node → Node) : Prop := ∀ c node, f (heldBy c node) = heldBy c (f node)

end Node

namespace Store

variable {s t : Store} {c n m k : NodeId} {f g : Node → Node} {place place' : Place}

lemma modify_comm (h : n = m → ∀ x, f (g x) = g (f x)) :
    (s.modify m g).modify n f = (s.modify n f).modify m g := by
  refine ext_node (by simp) fun i => ?_
  rw [node_modify, node_modify, node_modify, node_modify, size_modify, size_modify]
  split_ifs with hn hm
  · exact h (hn.1.trans hm.1.symm) _
  all_goals rfl

lemma modify_push {x : Node} (hn : n < s.size) : (s.push x).modify n f = (s.modify n f).push x := by
  refine ext_node (by simp) fun i => ?_
  rw [node_modify, node_push, node_push, node_modify, size_push, size_modify]
  rcases eq_or_ne i s.size with rfl | hi
  · rw [if_neg fun h => absurd h.1 (Nat.ne_of_lt hn), if_pos rfl, if_pos rfl]
  · have hiff : i < s.size + 1 ↔ i < s.size :=
      ⟨fun hlt => Nat.lt_of_le_of_ne (Nat.le_of_lt_succ hlt) hi, Nat.lt_succ_of_lt⟩
    simp only [if_neg hi, hiff]

lemma link_eq (s : Store) (c n : NodeId) (place : Place) :
    s.link c n place = (s.modify n (Node.heldBy c)).modify c (Node.holding place n) := rfl

lemma link_push {x : Node} (hc : c < s.size) (hn : n < s.size) :
    (s.push x).link c n place = (s.link c n place).push x := by
  rw [link_eq, link_eq, modify_push hn, modify_push (by simpa using hc)]

lemma link_modify (hm : m ≠ c) (hg : Node.IgnoresParent g) :
    (s.modify m g).link c n place = (s.link c n place).modify m g := by
  rw [link_eq, link_eq, modify_comm (f := Node.heldBy c) fun _ x => (hg c x).symm,
    modify_comm fun h => absurd h.symm hm]

lemma link_link (hm : m ≠ c) (hk : k ≠ n) :
    (s.link m k place').link c n place = (s.link c n place).link m k place' := by
  have hheld : ((s.modify k (Node.heldBy m)).link c n place) = (s.link c n place).modify k (Node.heldBy m) := by
    rw [link_eq, link_eq, modify_comm (f := Node.heldBy c) fun h => absurd h.symm hk,
      modify_comm (f := Node.holding place n) (g := Node.heldBy m) fun _ _ => rfl]
  rw [link_eq _ m, link_modify hm fun _ _ => rfl, hheld]
  rfl

lemma link_create (hc : c < s.size) (hn : n < s.size) (draft : Draft) :
    (s.link c n place).create draft = ((s.create draft).1.link c n place, (s.create draft).2) := by
  rw [create, create, size_link]
  cases draft.listing? with
  | none => rw [← link_push hc hn]
  | some listing =>
    simp only
    rw [link_push (by simpa using Nat.lt_succ_of_lt hc) (by simpa using Nat.lt_succ_of_lt hn), link_push hc hn]

end Store

open Script (Attachment)

structure Script.Attachment.Joins (a : Attachment) (s t : Store) : Prop where
  container : a.container < s.size
  node : a.node < s.size
  eq : t = a.apply s

namespace Script.Attachment.Joins

variable {a : Attachment} {s t : Store} {m k : NodeId} {g : Node → Node}

section

variable (h : a.Joins s t)

include h

lemma size : t.size = s.size := by
  rw [h.eq, Attachment.apply, Store.size_link]

lemma ne_of_size_le (hm : s.size ≤ m) : m ≠ a.container := Nat.ne_of_gt (Nat.lt_of_lt_of_le h.container hm)

lemma of_size_le {u v : Store} (hle : s.size ≤ u.size) (heq : v = a.apply u) : a.Joins u v where
  container := Nat.lt_of_lt_of_le h.container hle
  node := Nat.lt_of_lt_of_le h.node hle
  eq := heq

lemma create (draft : Draft) : a.Joins (s.create draft).1 (t.create draft).1 :=
  h.of_size_le (Nat.le_of_lt (Store.size_lt_size_create s draft))
    (by rw [h.eq, Attachment.apply, Store.link_create h.container h.node]; rfl)

lemma modify (hm : m ≠ a.container) (hg : Node.IgnoresParent g) : a.Joins (s.modify m g) (t.modify m g) :=
  h.of_size_le (Nat.le_of_eq (Store.size_modify s m g).symm)
    (by rw [h.eq, Attachment.apply, Attachment.apply, Store.link_modify hm hg])

lemma link (hm : m ≠ a.container) (hk : k ≠ a.node) (place : Place) :
    a.Joins (s.link m k place) (t.link m k place) :=
  h.of_size_le (Nat.le_of_eq (Store.size_link s k m place).symm)
    (by rw [h.eq, Attachment.apply, Attachment.apply, Store.link_link hm hk])

lemma plant {p : Planting} (hp : p.container ≠ a.container) : a.Joins (s.plant p) (t.plant p) := by
  rw [Store.plant, Store.plant, Store.createIn_fst, Store.createIn_fst, h.size]
  exact (h.create p.draft).link hp (Nat.ne_of_gt h.node) p.place

lemma plantAll {ps : List Planting} (hps : ∀ p ∈ ps, p.container ≠ a.container) :
    a.Joins (s.plantAll ps) (t.plantAll ps) := by
  induction ps generalizing s t with
  | nil => exact h
  | cons p ps ih =>
    obtain ⟨hp, hps⟩ := List.forall_mem_cons.mp hps
    exact ih (h.plant hp) hps

lemma createAllIn (hm : m ≠ a.container) (drafts : List Draft) :
    a.Joins (s.createAllIn m drafts) (t.createAllIn m drafts) := by
  rw [Store.createAllIn_eq_plantAll, Store.createAllIn_eq_plantAll]
  refine h.plantAll fun p hp => ?_
  obtain ⟨draft, -, rfl⟩ := List.mem_map.mp hp
  exact hm

lemma addOutline (hm : m ≠ a.container) (title : String) :
    a.Joins (Deck.addOutline s m title) (Deck.addOutline t m title) := by
  rw [Deck.addOutline_eq, Deck.addOutline_eq, h.size]
  refine h.plantAll ?_
  simp only [Deck.outlinePlantings, List.forall_mem_cons]
  exact ⟨hm, h.ne_of_size_le (Nat.le_refl _), h.ne_of_size_le (Nat.le_succ _), nofun⟩

lemma buildPreamble (plan : Preamble) (outlineTitle? : Option String) :
    a.Joins (Deck.buildPreamble s plan outlineTitle?).1 (Deck.buildPreamble t plan outlineTitle?).1 ∧
      (Deck.buildPreamble t plan outlineTitle?).2 = (Deck.buildPreamble s plan outlineTitle?).2 := by
  have hnew : s.size ≠ a.container := h.ne_of_size_le (Nat.le_refl _)
  have hheaded := h.create .header
  have hlined := hheaded.plant (p := ⟨s.size, .command "documentclass" plan.classArguments, .last⟩) hnew
  have hline : (s.create .header).1.size ≠ a.container := hheaded.ne_of_size_le (Nat.le_refl _)
  have hmarked := hlined.modify hline (g := fun node => { node with foreign? := plan.foreign? }) fun _ _ => rfl
  have hfilled := hmarked.createAllIn hnew (Deck.preambleDrafts plan.packages)
  rw [Deck.buildPreamble, Deck.buildPreamble]
  simp only [Store.create_snd, Store.createIn_snd, h.size, hheaded.size]
  refine ⟨?_, trivial⟩
  cases outlineTitle? with
  | none => exact hfilled
  | some title => exact hfilled.addOutline hnew title

lemma build (settings : LooseSettings) (i : ℕ) (outlineTitle? : Option String) :
    Deck.build t settings i outlineTitle? =
      (Deck.build s settings i outlineTitle?).map fun (u, d) => (a.apply u, d) := by
  rw [Deck.build, Deck.build]
  cases settings.preamble with
  | error cause => rfl
  | ok plan =>
    obtain ⟨hbuilt, hpreamble⟩ := (h.create (.environment "document" [])).buildPreamble plan outlineTitle?
    simp only [bind, Except.bind, pure, Except.pure, Except.map, Store.create_snd, h.size, hpreamble, hbuilt.size]
    rw [(hbuilt.create .header).eq]

lemma setTitle {d : Deck} (hheader : d.header ≠ a.container) (hdocument : d.document ≠ a.container)
    (title author : String) (date? subtitle? : Option String) :
    a.Joins (d.setTitle s title author date? subtitle?) (d.setTitle t title author date? subtitle?) := by
  rw [Deck.setTitle_eq, Deck.setTitle_eq, h.size]
  refine h.plantAll fun p hp => ?_
  rcases Deck.container_of_titlePlantings d s.size title author date? subtitle? p hp with heq | heq | hle
  · rwa [heq]
  · rwa [heq]
  · exact h.ne_of_size_le hle

end

end Script.Attachment.Joins

end SlideDeck
