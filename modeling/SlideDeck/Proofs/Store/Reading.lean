import Mathlib.Data.List.Nodup
import Mathlib.Logic.Relation
import SlideDeck.Store.Adoption

/-! What a store shows of a node after each operation on it. -/

namespace SlideDeck

lemma Place.mem_insert (place : Place) (m n : NodeId) (children : List NodeId) :
    m ∈ place.insert n children ↔ m = n ∨ m ∈ children := by
  cases place <;> simp [Place.insert, or_comm]

lemma Place.nodup_insert (place : Place) {n : NodeId} {children : List NodeId} (hn : n ∉ children)
    (h : children.Nodup) : (place.insert n children).Nodup := by
  cases place with
  | first => exact List.nodup_cons.mpr ⟨hn, h⟩
  | last => exact h.append (List.nodup_singleton n) (by simpa using hn)

def Content.listing? : Content → Option NodeId
  | code _ _ listing => some listing
  | _ => none

namespace Store

variable (s : Store) (n m : NodeId)

lemma node_of_size_le (h : s.size ≤ n) : s.node n = { content := .header } := by
  simp only [node, size] at h ⊢
  rw [Array.getD_eq_getD_getElem?, Array.getElem?_eq_none h]
  rfl

variable {s} in
lemma forall_node {P : Node → Prop} (hbeyond : P { content := .header }) (h : ∀ m < s.size, P (s.node m))
    (m : NodeId) : P (s.node m) := by
  by_cases hlt : m < s.size
  · exact h m hlt
  · rwa [node_of_size_le s m (Nat.le_of_not_lt hlt)]

lemma lt_size_of_parent? {p : NodeId} (h : s.parent? n = some p) : n < s.size := by
  by_contra hn
  rw [parent?, node_of_size_le s n (Nat.le_of_not_lt hn)] at h
  simp at h

lemma lt_size_of_mem_children (h : m ∈ s.children n) : n < s.size := by
  by_contra hn
  rw [children, node_of_size_le s n (Nat.le_of_not_lt hn)] at h
  simp at h

@[simp] lemma size_modify (f : Node → Node) : (s.modify n f).size = s.size := by
  simp [modify, size]

@[simp] lemma size_push (x : Node) : (s.push x).size = s.size + 1 := by
  simp [push, size]

lemma node_modify (f : Node → Node) :
    (s.modify n f).node m = if n = m ∧ m < s.size then f (s.node m) else s.node m := by
  simp only [modify, node, size, Array.getD_eq_getD_getElem?, Array.getElem?_modify]
  by_cases hm : m < s.nodes.size
  · by_cases hn : n = m <;> simp [hn, hm]
  · simp [hm]

lemma ext_node {s t : Store} (hsize : s.size = t.size) (hnode : ∀ m, s.node m = t.node m) : s = t := by
  obtain ⟨nodes⟩ := s
  obtain ⟨nodes'⟩ := t
  congr 1
  refine Array.ext hsize fun i hi hi' => ?_
  simpa [node, Array.getD_eq_getD_getElem?, hi, hi'] using hnode i

variable {s n} in
lemma modify_eq_self {f : Node → Node} (h : f (s.node n) = s.node n) : s.modify n f = s := by
  refine ext_node (size_modify s n f) fun m => ?_
  rw [node_modify]
  split_ifs with hm
  · rwa [← hm.1]
  · rfl

lemma node_push (x : Node) :
    (s.push x).node m = if m = s.size then x else s.node m := by
  simp only [push, node, size, Array.getD_eq_getD_getElem?, Array.getElem?_push]
  by_cases hm : m = s.nodes.size <;> simp [hm]

lemma node_take (k : ℕ) : (s.take k).node m = if m < k then s.node m else { content := .header } := by
  simp only [take, node, Array.getD_eq_getD_getElem?, Array.take_eq_extract, Array.getElem?_extract]
  grind

lemma size_create (draft : Draft) :
    (s.create draft).1.size = if draft.listing?.isSome then s.size + 2 else s.size + 1 := by
  rw [create]
  cases draft.listing? <;> simp

lemma size_lt_size_create (draft : Draft) : s.size < (s.create draft).1.size := by
  rw [size_create]
  split <;> omega

lemma create_snd (draft : Draft) : (s.create draft).2 = s.size := by
  rw [create]
  cases draft.listing? <;> rfl

variable {n m} in
lemma node_create_of_lt (draft : Draft) (h : m < s.size) :
    (s.create draft).1.node m = s.node m := by
  rw [create]
  cases draft.listing? with
  | none => rw [node_push, if_neg (Nat.ne_of_lt h)]
  | some listing =>
    simp only
    rw [node_push, size_push, if_neg (Nat.ne_of_lt (Nat.lt_succ_of_lt h)), node_push,
      if_neg (Nat.ne_of_lt h)]

lemma node_create_size (draft : Draft) :
    ((s.create draft).1.node s.size).content = draft.content (s.size + 1) := by
  rw [create]
  cases draft.listing? with
  | none => simp [node_push]
  | some listing =>
    simp only
    rw [node_push, if_neg (by simp), node_push, if_pos rfl]

lemma children_create (draft : Draft) : (s.create draft).1.children m =
    if m = s.size ∧ draft.listing?.isSome then [s.size + 1] else s.children m := by
  have hnil : s.children s.size = [] := by simp [children, node_of_size_le]
  have hnil' : s.children (s.size + 1) = [] := by simp [children, node_of_size_le]
  rw [create]
  cases draft.listing? with
  | none =>
    by_cases hm : m = s.size
    · subst hm; simp [children, node_push, hnil.symm]
    · simp [children, node_push, hm]
  | some listing =>
    by_cases hm : m = s.size
    · subst hm; simp [children, node_push]
    · by_cases hm' : m = s.size + 1
      · subst hm'; simp [children, node_push, hnil'.symm]
      · simp [children, node_push, hm, hm']

lemma parent?_create (draft : Draft) : (s.create draft).1.parent? m =
    if m = s.size + 1 ∧ draft.listing?.isSome then some s.size else s.parent? m := by
  have hnone : s.parent? s.size = none := by simp [parent?, node_of_size_le]
  rw [create]
  cases draft.listing? with
  | none =>
    by_cases hm : m = s.size
    · subst hm; simp [parent?, node_push, hnone.symm]
    · simp [parent?, node_push, hm]
  | some listing =>
    by_cases hm : m = s.size
    · subst hm; simp [parent?, node_push, hnone.symm]
    · by_cases hm' : m = s.size + 1
      · subst hm'; simp [parent?, node_push]
      · simp [parent?, node_push, hm, hm']

@[simp] lemma size_link (c : NodeId) (place : Place) : (s.link c n place).size = s.size := by
  simp [link]

lemma node_link (c : NodeId) (place : Place) : (s.link c n place).node m =
    { s.node m with
      parent? := if n = m ∧ m < s.size then some c else s.parent? m
      children := if c = m ∧ m < s.size then place.insert n (s.children m) else s.children m } := by
  rw [link, parent?, children]
  rw [node_modify, node_modify, size_modify]
  split_ifs <;> rfl

@[simp] lemma kind_link (c : NodeId) (place : Place) : (s.link c n place).kind m = s.kind m := by
  rw [kind]
  rw [node_link]
  rfl

lemma parent?_link {c : NodeId} {place : Place} (hn : n < s.size) :
    (s.link c n place).parent? m = if m = n then some c else s.parent? m := by
  rw [parent?]
  rw [node_link]
  by_cases hm : m = n
  · subst hm; simp [hn]
  · have hm' : ¬ n = m := fun h => hm h.symm
    simp [hm, hm', parent?]

lemma children_link {c : NodeId} {place : Place} (hc : c < s.size) :
    (s.link c n place).children m =
      if m = c then place.insert n (s.children c) else s.children m := by
  rw [children]
  rw [node_link]
  by_cases hm : m = c
  · subst hm; simp [hc, children]
  · have hm' : ¬ c = m := fun h => hm h.symm
    simp [hm, hm', children]

end Store

end SlideDeck
