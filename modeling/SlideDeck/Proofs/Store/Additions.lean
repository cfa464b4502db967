import SlideDeck.Proofs.Store.Edit
import SlideDeck.Proofs.Store.Graft

/-! New trees in a container: they stand before or after what it has held, and nothing else changes. -/

namespace SlideDeck

def Tree.leaf (c n : NodeId) (content : Content) : Tree := .node n { content, parent? := some c } []

def Tree.holder (c n : NodeId) (outer inner : Content) : Tree :=
  .node n { content := outer, parent? := some c, children := [n + 1] } [.leaf n (n + 1) inner]

def Forest.leaves (c : NodeId) : NodeId → List Draft → Forest
  | _, [] => []
  | n, draft :: rest => .leaf c n (draft.content (n + 1)) :: leaves c (n + 1) rest

def Place.ahead : Place → Tree → Forest
  | first, t => [t]
  | last, _ => []

def Place.behind : Place → Tree → Forest
  | first, _ => []
  | last, t => [t]

lemma Place.insert_eq (place : Place) (t : Tree) (ids : List NodeId) :
    place.insert t.id ids = (place.ahead t).map Tree.id ++ ids ++ (place.behind t).map Tree.id := by
  cases place <;> simp [insert, ahead, behind]

lemma Place.mem_ahead_append_behind {place : Place} {t u : Tree} :
    u ∈ place.ahead t ++ place.behind t ↔ u = t := by
  cases place <;> simp [ahead, behind]

namespace Store

variable {s t u : Store} {c d n : NodeId} {front back front' back' : Forest} {v : Tree} {draft : Draft}

structure Makes (s t : Store) (v : Tree) : Prop where
  reads : v.Matches t
  fresh : ∀ m ∈ v.ids, s.size ≤ m ∧ m < t.size

/-- New trees stand before and after what a container has held, and nothing else has changed. -/
structure Adds (s t : Store) (c : NodeId) (front back : Forest) : Prop where
  size_le : s.size ≤ t.size
  container : t.node c =
    { s.node c with children := front.map Tree.id ++ s.children c ++ back.map Tree.id }
  others : ∀ m < s.size, m ≠ c → t.node m = s.node m
  makes : ∀ v ∈ front ++ back, s.Makes t v

lemma Adds.refl (s : Store) (c : NodeId) : s.Adds s c [] [] where
  size_le := Nat.le_refl _
  container := by simp [children]
  others _ _ _ := rfl
  makes := List.forall_mem_nil _

lemma Adds.keeps (h : s.Adds t c front back) (hv : v.Matches s) (hids : ∀ m ∈ v.ids, m < s.size ∧ m ≠ c) :
    v.Matches t :=
  hv.congr fun m hm => h.others m (hids m hm).1 (hids m hm).2

lemma Makes.kept (hv : s.Makes t v) (h : t.Adds u c front back) (hc : c ∉ v.ids) : s.Makes u v where
  reads := h.keeps hv.reads fun m hm => ⟨(hv.fresh m hm).2, ne_of_mem_of_not_mem hm hc⟩
  fresh m hm := ⟨(hv.fresh m hm).1, Nat.lt_of_lt_of_le (hv.fresh m hm).2 h.size_le⟩

lemma Makes.adds (hv : s.Makes t v) (h : t.Adds u c front back) (hc : c < s.size) : s.Makes u v :=
  hv.kept h fun hmem => absurd (hv.fresh c hmem).1 (Nat.not_le_of_lt hc)

lemma Makes.before (hv : t.Makes u v) (h : s.size ≤ t.size) : s.Makes u v where
  reads := hv.reads
  fresh m hm := ⟨Nat.le_trans h (hv.fresh m hm).1, (hv.fresh m hm).2⟩

lemma Makes.create (hv : s.Makes t v) (draft : Draft) : s.Makes (t.create draft).1 v where
  reads := hv.reads.congr fun m hm => node_create_of_lt t draft (hv.fresh m hm).2
  fresh m hm := ⟨(hv.fresh m hm).1, Nat.lt_trans (hv.fresh m hm).2 (size_lt_size_create t draft)⟩

lemma makes_create (hleaf : draft.listing? = none) :
    s.Makes (s.create draft).1 (.node s.size { content := draft.content (s.size + 1) } []) := by
  have hroot : (s.create draft).1.node s.size = { content := draft.content (s.size + 1) } := by
    rw [create, hleaf, node_push, if_pos rfl]
  refine ⟨?_, fun m hm => ?_⟩
  · rw [← hroot]
    exact .node _ [] (by rw [children, hroot]; rfl) (List.forall_mem_nil _)
  · obtain rfl : m = s.size := by simpa [Tree.ids, Forest.ids] using hm
    exact ⟨Nat.le_refl _, size_lt_size_create s draft⟩

lemma Adds.trans (h : s.Adds t c front back) (h' : t.Adds u c front' back') (hc : c < s.size) :
    s.Adds u c (front' ++ front) (back ++ back') where
  size_le := Nat.le_trans h.size_le h'.size_le
  container := by
    rw [h'.container, children, h.container]
    simp
  others m hm hne := (h'.others m (Nat.lt_of_lt_of_le hm h.size_le) hne).trans (h.others m hm hne)
  makes v hv := by
    have hcases : v ∈ front ++ back ∨ v ∈ front' ++ back' := by
      simp only [List.mem_append] at hv ⊢
      tauto
    rcases hcases with hv | hv
    · exact (h.makes v hv).adds h' hc
    · exact (h'.makes v hv).before h.size_le

lemma Adds.host {children : Forest} (h : s.Adds t c front back)
    (hhost : (Tree.node c (s.node c) children).Matches s)
    (hids : ∀ m ∈ Forest.ids children, m < s.size ∧ m ≠ c) :
    (Tree.node c (t.node c) (front ++ children ++ back)).Matches t := by
  cases hhost with
  | node n children hchildren hbelow =>
    refine .node c _ ?_ fun v hv => ?_
    · rw [Store.children, h.container]
      simp [hchildren]
    · simp only [List.mem_append] at hv
      rcases hv with (hv | hv) | hv
      · exact (h.makes v (List.mem_append_left _ hv)).reads
      · exact h.keeps (hbelow v hv) fun m hm => hids m (Forest.mem_ids.mpr ⟨v, hv, hm⟩)
      · exact (h.makes v (List.mem_append_right _ hv)).reads

lemma Adds.makes_host {r : Store} (h : s.Adds t c front back) (hc : r.Makes s (.node c (s.node c) [])) :
    r.Makes t (.node c (t.node c) (front ++ back)) where
  reads := by
    have hhost := h.host hc.reads (List.forall_mem_nil _)
    rwa [List.append_nil] at hhost
  fresh m hm := by
    obtain ⟨hle, hlt⟩ := hc.fresh c List.mem_cons_self
    rcases List.mem_cons.mp hm with rfl | hm
    · exact ⟨hle, Nat.lt_of_lt_of_le hlt h.size_le⟩
    · obtain ⟨v, hv, hm⟩ := Forest.mem_ids.mp hm
      obtain ⟨hle', hlt'⟩ := (h.makes v hv).fresh m hm
      exact ⟨Nat.le_trans (Nat.le_of_lt (Nat.lt_of_le_of_lt hle hlt)) hle', hlt'⟩

lemma node_createIn (place : Place) (hc : c < s.size) (hleaf : draft.listing? = none) (m : NodeId) :
    (s.createIn c draft place).1.node m =
      if m = s.size then { content := draft.content (s.size + 1), parent? := some c }
      else if m = c then { s.node m with children := place.insert s.size (s.children m) }
      else s.node m := by
  have hcreate : (s.create draft).1 = s.push { content := draft.content (s.size + 1) } := by
    rw [create, hleaf]
  rw [createIn_fst, hcreate, node_link, size_push, parent?, children, node_push]
  by_cases hm : m = s.size
  · subst hm
    simp [Nat.ne_of_lt hc]
  · by_cases hmc : m = c
    · subst hmc
      simp [hm, Ne.symm hm, Nat.lt_succ_of_lt hc, children]
    · simp [hm, hmc, Ne.symm hm, Ne.symm hmc]

lemma size_createIn (place : Place) (hleaf : draft.listing? = none) :
    (s.createIn c draft place).1.size = s.size + 1 := by
  rw [createIn_fst, size_link, size_create, hleaf]
  rfl

lemma size_createAllIn {drafts : List Draft} (hleaves : ∀ draft ∈ drafts, draft.listing? = none) :
    (s.createAllIn c drafts).size = s.size + drafts.length := by
  induction drafts generalizing s with
  | nil => rfl
  | cons draft rest ih =>
    obtain ⟨hleaf, hrest⟩ := List.forall_mem_cons.mp hleaves
    have hmore := ih (s := (s.createIn c draft .last).1) hrest
    rw [size_createIn .last hleaf] at hmore
    rw [List.length_cons, Nat.add_comm rest.length, ← Nat.add_assoc]
    exact hmore

lemma adds_leaf (place : Place) (hc : c < s.size) (hleaf : draft.listing? = none) :
    let v := Tree.leaf c s.size (draft.content (s.size + 1))
    s.Adds (s.createIn c draft place).1 c (place.ahead v) (place.behind v) := by
  intro v
  have hnode := node_createIn (s := s) place hc hleaf
  have hsize := size_createIn (s := s) (c := c) place hleaf
  have hroot := (hnode s.size).trans (if_pos rfl)
  refine ⟨by rw [hsize]; exact Nat.le_succ _, ?_, fun m hm hne => ?_, fun u hu => ?_⟩
  · rw [hnode, if_neg (Nat.ne_of_lt hc), if_pos rfl, ← place.insert_eq]
    rfl
  · rw [hnode, if_neg (Nat.ne_of_lt hm), if_neg hne]
  · obtain rfl := Place.mem_ahead_append_behind.mp hu
    refine ⟨?_, fun m hm => ?_⟩
    · simp only [v, Tree.leaf]
      rw [← hroot]
      exact .node _ [] (by rw [children, hroot]; rfl) (List.forall_mem_nil _)
    · obtain rfl : m = s.size := by simpa [v, Tree.leaf, Tree.ids, Forest.ids] using hm
      exact ⟨Nat.le_refl _, by rw [hsize]; exact Nat.lt_succ_self _⟩

lemma adds_leaves {drafts : List Draft} (hc : c < s.size) (hleaves : ∀ draft ∈ drafts, draft.listing? = none) :
    s.Adds (s.createAllIn c drafts) c [] (Forest.leaves c s.size drafts) := by
  induction drafts generalizing s with
  | nil => exact .refl s c
  | cons draft rest ih =>
    obtain ⟨hleaf, hrest⟩ := List.forall_mem_cons.mp hleaves
    have hfirst := adds_leaf .last hc hleaf
    have hmore := ih (s := (s.createIn c draft .last).1) (Nat.lt_of_lt_of_le hc hfirst.size_le) hrest
    rw [size_createIn .last hleaf] at hmore
    exact hfirst.trans hmore hc

lemma adds_nested {inner : Forest} (draft : Draft) (place : Place) (hc : c < s.size) (hleaf : draft.listing? = none)
    (h : (s.createIn c draft place).1.Adds t s.size [] inner) :
    let v := Tree.node s.size
      { content := draft.content (s.size + 1), parent? := some c, children := inner.map Tree.id } inner
    s.Adds t c (place.ahead v) (place.behind v) := by
  intro v
  let outer := (s.createIn c draft place).1
  have hlt : s.size < outer.size := by
    rw [size_createIn place hleaf]
    exact Nat.lt_succ_self _
  have houter : s.Adds outer c _ _ := adds_leaf place hc hleaf
  have hroot : outer.node s.size = { content := draft.content (s.size + 1), parent? := some c } := by
    rw [node_createIn place hc hleaf, if_pos rfl]
  refine ⟨Nat.le_trans houter.size_le h.size_le, ?_, fun m hm hne => ?_, fun u hu => ?_⟩
  · have hkept := h.others c (Nat.lt_trans hc hlt) (Nat.ne_of_lt hc)
    refine hkept.trans (houter.container.trans ?_)
    rw [← place.insert_eq, ← place.insert_eq]
    rfl
  · exact (h.others m (Nat.lt_trans hm hlt) (Nat.ne_of_lt hm)).trans (houter.others m hm hne)
  · obtain rfl := Place.mem_ahead_append_behind.mp hu
    have hmade : s.Makes outer (.node s.size (outer.node s.size) []) := by
      rw [hroot]
      exact houter.makes _ (Place.mem_ahead_append_behind.mpr rfl)
    have hfilled := h.makes_host hmade
    rwa [h.container, children, hroot] at hfilled

lemma adds_holder (draft inner : Draft) (place : Place) (hc : c < s.size) (hleaf : draft.listing? = none)
    (hinner : inner.listing? = none) :
    let v := Tree.holder c s.size (draft.content (s.size + 1)) (inner.content (s.size + 2))
    s.Adds ((s.createIn c draft place).1.createIn s.size inner .last).1 c (place.ahead v) (place.behind v) := by
  have hsize : (s.createIn c draft place).1.size = s.size + 1 := size_createIn place hleaf
  have hlt : s.size < (s.createIn c draft place).1.size := by
    rw [hsize]
    exact Nat.lt_succ_self _
  have hfull := adds_leaf .last hlt hinner
  rw [hsize] at hfull
  exact adds_nested draft place hc hleaf hfull

end Store

end SlideDeck
