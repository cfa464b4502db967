import SlideDeck.Proofs.Cut
import SlideDeck.Proofs.Store.Cycles
import SlideDeck.Proofs.Store.Rendering

/-! A new edge grafts the tree of the attached node into the tree of each node above the container, and what is
written of that tree gets what is written of the other put in at one place. -/

namespace SlideDeck

namespace Tree.Matches

variable {s : Store} {t : Tree} {c : NodeId}

lemma nodup_ids (hs : s.WellFormed) (ht : t.Matches s) : t.ids.Nodup := by
  induction ht with
  | node n children hids h ih =>
    have hparent : ∀ t ∈ children, s.parent? t.id = some n := fun t ht => parent?_of_mem hs hids ht
    -- a child from which one comes up to `n` again would be its own ancestor
    have hback : ∀ t ∈ children, ¬ s.Climbs n t.id := fun t ht hclimbs =>
      (h t ht).not_cyclic hs ⟨n, hparent t ht, hclimbs⟩
    rw [Tree.ids, List.nodup_cons]
    refine ⟨fun hmem => ?_, ?_⟩
    · obtain ⟨t, ht, hn⟩ := Forest.mem_ids.mp hmem
      exact hback t ht (((h t ht).mem_ids_iff hs).mp hn)
    · have hdistinct : children.Pairwise fun t u => t.id ≠ u.id := by
        have hnodup := hs.nodup_children n
        rw [← hids] at hnodup
        exact List.pairwise_map.mp hnodup
      have hapart : ∀ t ∈ children, ∀ u ∈ children, t.id ≠ u.id → ¬ s.Climbs t.id u.id := by
        intro t ht u hu hne hclimbs
        rcases hclimbs.cases_head with heq | ⟨p, hp, hpu⟩
        · exact hne heq
        · obtain rfl := Option.some.inj ((hparent t ht).symm.trans hp)
          exact hback u hu hpu
      rw [Forest.ids_eq, List.nodup_flatMap]
      refine ⟨ih, hdistinct.imp_of_mem fun {t u} ht hu hne m hmt hmu => ?_⟩
      rcases (((h t ht).mem_ids_iff hs).mp hmt).total (((h u hu).mem_ids_iff hs).mp hmu) with htu | hut
      · exact hapart t ht u hu hne htu
      · exact hapart u hu t ht hne.symm hut

lemma isContainer_of_mem (hs : s.WellFormed) {n : NodeId} {children : Forest}
    (hids : children.map Tree.id = s.children n) (hc : c ∈ Forest.ids children) :
    (s.kind n).isContainer = true := by
  by_contra hkind
  rw [hs.children_eq_nil n (by simpa using hkind), List.map_eq_nil_iff] at hids
  simp [hids, Forest.ids] at hc

lemma takes (hs : s.WellFormed) (ht : t.Matches s) (hc : s.Container c) (place : Place) (guest : Tree)
    (hmem : c ∈ t.ids) : guest.Takes c place t := by
  induction ht with
  | node n children hids h ih =>
    refine Tree.takes_node ?_ (nodup_ids hs (.node n children hids h)) ih hmem
    rcases List.mem_cons.mp hmem with rfl | hmem
    · exact hc.isContainer
    · exact isContainer_of_mem hs hids hmem

lemma congr {s' : Store} (ht : t.Matches s) (h : ∀ m ∈ t.ids, s'.node m = s.node m) :
    t.Matches s' := by
  induction ht with
  | node n children hids hchildren ih =>
    have hn : s'.node n = s.node n := h n List.mem_cons_self
    rw [← hn]
    refine .node n children ?_ fun t ht => ih t ht fun m hm => h m ?_
    · rw [hids, Store.children, Store.children, hn]
    · exact List.mem_cons_of_mem _ (Forest.mem_ids.mpr ⟨t, ht, hm⟩)

end Tree.Matches

def Tree.under (c : NodeId) : Tree → Tree
  | .node id root children => .node id { root with parent? := some c } children

lemma Tree.pieces_under (c : NodeId) (t : Tree) : (t.under c).pieces = t.pieces := by
  cases t
  rfl

lemma Tree.brings_under (c : NodeId) (kind : Kind) (t : Tree) :
    (t.under c).brings kind = t.brings kind := by
  cases t
  rfl

namespace Store

variable {s : Store} {c n r : NodeId} (place : Place) {guest host : Tree}

structure Joinable (s : Store) (c n : NodeId) : Prop where
  container : s.Container c
  lt_size : n < s.size
  free : s.parent? n = none
  apart : ¬ s.Climbs c n

lemma Joinable.ne (h : s.Joinable c n) : c ≠ n := fun heq => h.apart (heq ▸ .refl)

lemma Joinable.wellFormed (h : s.Joinable c n) (hs : s.WellFormed) : (s.link c n place).WellFormed :=
  hs.link place h.container h.lt_size h.free

lemma node_link_of_ne {m : NodeId} (hn : m ≠ n) (hc : m ≠ c) :
    (s.link c n place).node m = s.node m := by
  rw [node_link, if_neg fun h => hn h.1.symm, if_neg fun h => hc h.1.symm]
  rfl

lemma Joinable.node_link_node (h : s.Joinable c n) :
    (s.link c n place).node n = { s.node n with parent? := some c } := by
  rw [node_link, if_pos ⟨rfl, h.lt_size⟩, if_neg fun heq => h.ne heq.1]
  rfl

lemma Joinable.node_link_container (h : s.Joinable c n) : (s.link c n place).node c =
    { s.node c with children := place.insert n (s.children c) } := by
  rw [node_link, if_neg fun heq => h.ne heq.1.symm, if_pos ⟨rfl, h.container.lt_size⟩]
  rfl

lemma Joinable.matches_guest (h : s.Joinable c n) (hs : s.WellFormed) (hguest : guest.Matches s)
    (hid : guest.id = n) : (guest.under c).Matches (s.link c n place) := by
  have hall := hguest.mem_ids_iff (m := c) hs
  rw [hid] at hall
  cases hguest with
  | node n' children hids hchildren =>
    obtain rfl : n' = n := hid
    rw [Tree.under, ← h.node_link_node place]
    refine .node n' children ?_ fun t ht => (hchildren t ht).congr fun m hm => ?_
    · rw [hids, Store.children, Store.children, h.node_link_node place]
    · refine node_link_of_ne place ?_ ?_
      · rintro rfl
        -- the root would have a node below itself as parent
        have hclimbs := ((hchildren t ht).mem_ids_iff hs).mp hm
        have hparent := Tree.Matches.parent?_of_mem hs hids ht
        rw [hclimbs.eq_of_free h.free, h.free] at hparent
        simp at hparent
      · rintro rfl
        exact h.apart (hall.mp (List.mem_cons_of_mem _ (Forest.mem_ids.mpr ⟨t, ht, hm⟩)))

lemma Joinable.matches_host (h : s.Joinable c n) (hguest : guest.Matches (s.link c n place))
    (hid : guest.id = n) (hhost : host.Matches s) (hn : n ∉ host.ids) :
    (guest.graftInto c place host).Matches (s.link c n place) := by
  induction hhost with
  | node m children hids hchildren ih =>
    rw [Tree.ids, List.mem_cons, not_or] at hn
    have hbelow : ∀ t ∈ Forest.graftInto c place guest children, t.Matches (s.link c n place) := by
      intro t ht
      rw [Forest.graftInto_eq] at ht
      obtain ⟨u, hu, rfl⟩ := List.mem_map.mp ht
      exact ih u hu fun hmem => hn.2 (Forest.mem_ids.mpr ⟨u, hu, hmem⟩)
    rw [Tree.graftInto]
    split
    · next hm =>
      subst hm
      have hnode := h.node_link_container place
      have hroot : { s.node m with children := place.insert guest.id (s.node m).children } =
          (s.link m n place).node m := by
        rw [hnode, hid]
        rfl
      rw [hroot]
      refine .node m _ ?_ fun t ht => ?_
      · rw [Place.map_id_plant, hid, Forest.map_id_graftInto, hids, Store.children, Store.children, hnode]
        rfl
      · rcases (Place.mem_plant place guest _).mp ht with rfl | ht
        · exact hguest
        · exact hbelow t ht
    · next hm =>
      have hnode : (s.link c n place).node m = s.node m :=
        node_link_of_ne place (fun heq => hn.1 heq.symm) hm
      rw [← hnode]
      refine .node m _ ?_ hbelow
      rw [Forest.map_id_graftInto, hids, Store.children, Store.children, hnode]

lemma Joinable.tree?_link (h : s.Joinable c n) (hs : s.WellFormed) (hr : ¬ s.Climbs n r)
    (hhost : s.tree? r = some host) (hguest : s.tree? n = some guest) :
    (s.link c n place).tree? r = some ((guest.under c).graftInto c place host) := by
  obtain ⟨rfl, hmatches⟩ := matches_of_tree? hhost
  obtain ⟨hid, hbelow⟩ := matches_of_tree? hguest
  have hunder : (guest.under c).id = n := by
    rw [← hid]
    cases guest
    rfl
  have hgraft := h.matches_host place (h.matches_guest place hs hbelow hid) hunder hmatches
    fun hmem => hr ((hmatches.mem_ids_iff hs).mp hmem)
  rw [← tree?_of_matches (h.wellFormed place hs) hgraft, Tree.id_graftInto]

lemma Joinable.holdsForeign_link (h : s.Joinable c n) (hcr : s.Climbs c r) :
    (s.link c n place).HoldsForeign r ↔ s.HoldsForeign r ∨ s.HoldsForeign n := by
  have hwritable : ∀ m, ((s.link c n place).node m).isWritable true = (s.node m).isWritable true := by
    intro m
    rw [node_link]
    rfl
  simp only [HoldsForeign, hwritable, climbs_link place h.lt_size h.free]
  constructor
  · rintro ⟨m, hm | ⟨hm, -⟩, hsome⟩
    · exact .inl ⟨m, hm, hsome⟩
    · exact .inr ⟨m, hm, hsome⟩
  · rintro (⟨m, hm, hsome⟩ | ⟨m, hm, hsome⟩)
    · exact ⟨m, .inl hm, hsome⟩
    · exact ⟨m, .inr ⟨hm, hcr⟩, hsome⟩

lemma Joinable.exists_cut (h : s.Joinable c n) (hs : s.WellFormed) (hcr : s.Climbs c r)
    (hhost : s.tree? r = some host) (hguest : s.tree? n = some guest) :
    ∃ x t, (host.readied (guest.brings .code) c).cut? c place = some x ∧
      (s.link c n place).tree? r = some t ∧
      x.Splices (host.readied (guest.brings .code) c).pieces t.pieces guest.pieces := by
  have hnr : ¬ s.Climbs n r := fun hclimbs => h.apart (hclimbs.eq_of_free h.free ▸ hcr)
  obtain ⟨rfl, hmatches⟩ := matches_of_tree? hhost
  obtain ⟨x, hcut, hsplices⟩ := hmatches.takes hs h.container place (guest.under c)
    ((hmatches.mem_ids_iff hs).mpr hcr)
  rw [Tree.brings_under] at hcut hsplices
  rw [Tree.pieces_under] at hsplices
  exact ⟨x, _, hcut, h.tree?_link place hs hnr hhost hguest, hsplices⟩

end Store

end SlideDeck
