import SlideDeck.Proofs.Qualification
import SlideDeck.Proofs.Store.Below
import SlideDeck.Proofs.Store.Cycles

/-! A subtree that takes the place of another one. What is written around it stays as it was. -/

namespace SlideDeck

namespace Forest

variable {left right : Forest} {t w : Tree} {m : NodeId} (hnodup : (Forest.ids (left ++ t :: right)).Nodup)

include hnodup

lemma nodup_ids_of_mem : t.ids.Nodup := by
  rw [ids_eq, List.nodup_flatMap] at hnodup
  exact hnodup.1 t (by simp)

lemma not_mem_ids_of_beside (hw : w ∈ left ++ right) (hm : m ∈ w.ids) : m ∉ t.ids := by
  rw [ids_eq, List.nodup_flatMap, List.pairwise_middle fun h => List.Disjoint.symm h] at hnodup
  exact fun hmt => (List.pairwise_cons.mp hnodup.2).1 w hw hmt hm

end Forest

namespace Tree

structure StandsFor (v u : Tree) : Prop where
  id : v.id = u.id
  kind : v.kind = u.kind
  holds : v.holds .code = u.holds .code

lemma standsFor_qualify (slides? : Option Int) (t : Tree) : (t.qualify slides?).StandsFor t := by
  cases t
  exact ⟨rfl, rfl, rfl⟩

variable {x : Cut} {s s' : Store} {t u v : Tree}

lemma Fills.ids_subset (h : u.Fills x t) : u.ids ⊆ t.ids := by
  induction h with
  | whole => exact List.Subset.refl _
  | @within x t id root left right hroot h ih =>
    intro m hm
    exact List.mem_cons_of_mem _ (Forest.mem_ids.mpr ⟨t, by simp, ih hm⟩)

lemma Fills.exchange (h : u.Fills x t) (ht : t.Matches s) (hnodup : t.ids.Nodup) (hv : v.Matches s')
    (hvu : v.StandsFor u) (hsame : ∀ m ∈ t.ids, m ∉ u.ids → s'.node m = s.node m) :
    ∃ t', v.Fills x t' ∧ t'.Matches s' ∧ t'.StandsFor t := by
  induction h with
  | whole => exact ⟨v, .whole, hv, hvu⟩
  | @within x t id root left right hroot h ih =>
    cases ht with
    | node _ _ hids hchildren =>
      rw [Tree.ids, List.nodup_cons] at hnodup
      obtain ⟨hid, hbelow⟩ := hnodup
      have hmem {w : Tree} (hw : w ∈ left ++ t :: right) {m : NodeId} (hm : m ∈ w.ids) :
          m ∈ (Tree.node id (s.node id) (left ++ t :: right)).ids :=
        List.mem_cons_of_mem _ (Forest.mem_ids.mpr ⟨w, hw, hm⟩)
      obtain ⟨t', hfills, hmatches, hstands⟩ := ih (hchildren t (by simp)) (Forest.nodup_ids_of_mem hbelow)
        fun m hm hmu => hsame m (hmem (by simp) hm) hmu
      have hroot' : s'.node id = s.node id := hsame id List.mem_cons_self fun hmu =>
        hid (Forest.mem_ids.mpr ⟨t, by simp, h.ids_subset hmu⟩)
      have hbeside : ∀ w ∈ left ++ right, w.Matches s' := by
        intro w hw
        have hchild : w ∈ left ++ t :: right := ((List.sublist_cons_self t right).append_left left).subset hw
        refine (hchildren w hchild).congr fun m hm => hsame m (hmem hchild hm) fun hmu => ?_
        exact Forest.not_mem_ids_of_beside hbelow hw hm (h.ids_subset hmu)
      have hholds : Forest.holds .code (left ++ t' :: right) = Forest.holds .code (left ++ t :: right) := by
        simp [Forest.holds_eq, hstands.kind, hstands.holds]
      refine ⟨.node id (s.node id) (left ++ t' :: right), ?_, ?_, ⟨rfl, rfl, hholds⟩⟩
      · rw [← hholds]
        exact .within id left right hroot hfills
      · rw [← hroot']
        refine .node id _ ?_ ?_
        · rw [Store.children, hroot', ← Store.children, ← hids]
          simp [hstands.id]
        · obtain ⟨hleft, hright⟩ := List.forall_mem_append.mp hbeside
          exact List.forall_mem_append.mpr ⟨hleft, List.forall_mem_cons.mpr ⟨hmatches, hright⟩⟩

end Tree

namespace Store

def qualify (s : Store) (n : NodeId) (slides? : Option Int) : Store := s.modify n fun node => { node with slides? := slides?.map .int }

variable {s : Store} {m n r : NodeId} {slides? : Option Int} {t : Tree}

lemma sameShape_qualify : s.SameShape (s.qualify n slides?) := s.sameShape_modify n ⟨rfl, rfl, rfl, rfl⟩

lemma node_qualify_self (hn : n < s.size) (slides? : Option Int) :
    (s.qualify n slides?).node n = { s.node n with slides? := slides?.map .int } := by
  rw [qualify, node_modify, if_pos ⟨rfl, hn⟩]

lemma node_qualify_of_ne (hne : n ≠ m) : (s.qualify n slides?).node m = s.node m := by
  rw [qualify, node_modify, if_neg fun h => hne h.1]

lemma matches_qualify (hs : s.WellFormed) (ht : t.Matches s) (hlt : t.id < s.size) (slides? : Option Int) :
    (t.qualify slides?).Matches (s.qualify t.id slides?) := by
  have hnodup := ht.nodup_ids hs
  cases ht with
  | node n children hids hchildren =>
    rw [Tree.ids, List.nodup_cons] at hnodup
    have hlt : n < s.size := hlt
    change Tree.Matches (s.qualify n slides?) (.node n { s.node n with slides? := slides?.map .int } children)
    rw [← node_qualify_self hlt slides?]
    refine .node n children ?_ fun t ht => (hchildren t ht).congr fun m hm => node_qualify_of_ne ?_
    · rw [sameShape_qualify.children, hids]
    · rintro rfl
      exact hnodup.1 (Forest.mem_ids.mpr ⟨t, ht, hm⟩)

lemma exists_cut_qualify (hs : s.WellFormed) (hm : m < s.size) (hmr : s.Climbs m r) (hr : ¬ s.Cyclic r) :
    ∃ t x, s.tree? m = some t ∧ ∀ slides?, (s.qualify m slides?).tree? m = some (t.qualify slides?) ∧
      ∃ host, (s.qualify m slides?).tree? r = some host ∧ (t.qualify slides?).Fills x host := by
  obtain ⟨host, hhost⟩ := exists_tree hs hr
  obtain ⟨t, x, ht, hfills⟩ := exists_fills hs hhost hmr
  obtain ⟨rfl, hmatches⟩ := matches_of_tree? ht
  obtain ⟨rfl, hmatches'⟩ := matches_of_tree? hhost
  refine ⟨t, x, ht, fun slides? => ?_⟩
  have hs' : (s.qualify t.id slides?).WellFormed := sameShape_qualify.wellFormed hs
  have hstands := t.standsFor_qualify slides?
  have hqualified := matches_qualify hs hmatches hm slides?
  obtain ⟨host', hfills', hmatches'', hid⟩ := hfills.exchange hmatches' (hmatches'.nodup_ids hs) hqualified hstands
    fun n _ hn => node_qualify_of_ne fun heq => hn (heq ▸ t.id_mem_ids)
  have htree := tree?_of_matches hs' hqualified
  have htree' := tree?_of_matches hs' hmatches''
  rw [hstands.id] at htree
  rw [hid.id] at htree'
  exact ⟨htree, host', htree', hfills'⟩

end Store

end SlideDeck
