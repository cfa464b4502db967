import SlideDeck.Proofs.Store.Ancestry
import SlideDeck.Proofs.Tree
import SlideDeck.Store.Walk

/-! A walk down from a node reads off the tree below it, unless the node is its own ancestor. -/

namespace SlideDeck

section Options

variable {α β : Type} {f : α → Option β}

lemma mapM_eq_some {l : List α} {l' : List β} :
    l.mapM f = some l' ↔ List.Forall₂ (fun a b => f a = some b) l l' := by
  induction l generalizing l' with
  | nil => cases l' <;> simp
  | cons a l ih =>
    cases l' with
    | nil => simp [Option.bind_eq_some_iff]
    | cons b l' => simp [Option.bind_eq_some_iff, ih]

lemma mapM_eq_none {l : List α} : l.mapM f = none ↔ ∃ a ∈ l, f a = none := by
  induction l with
  | nil => simp
  | cons a l ih =>
    cases ha : f a with
    | none => simp [ha]
    | some b =>
      rw [List.exists_mem_cons_iff, ← ih, List.mapM_cons, ha]
      cases l.mapM f <;> simp

end Options

inductive Tree.Matches (s : Store) : Tree → Prop
  | node (n : NodeId) (children : Forest) (hids : children.map Tree.id = s.children n)
      (h : ∀ t ∈ children, t.Matches s) : Matches s (.node n (s.node n) children)

namespace Store

variable {s : Store} {m n : NodeId} {t : Tree}

lemma matches_of_forall₂ {ids : List NodeId} {f : Forest}
    (h : List.Forall₂ (fun c t => t.id = c ∧ t.Matches s) ids f) :
    f.map Tree.id = ids ∧ ∀ t ∈ f, t.Matches s := by
  induction h with
  | nil => simp
  | cons hc _ ih => exact ⟨by rw [List.map_cons, hc.1, ih.1], List.forall_mem_cons.mpr ⟨hc.2, ih.2⟩⟩

lemma matches_of_treeWithin {depth : Nat} (h : s.treeWithin depth n = some t) :
    t.id = n ∧ t.Matches s := by
  induction depth generalizing n t with
  | zero => simp [treeWithin] at h
  | succ depth ih =>
    obtain ⟨children, hchildren, rfl⟩ := Option.map_eq_some_iff.mp h
    have hread := (mapM_eq_some.mp hchildren).imp fun _ _ => ih
    obtain ⟨hids, hmatches⟩ := matches_of_forall₂ hread
    exact ⟨rfl, .node n children hids hmatches⟩

lemma kind_of_treeWithin {depth : Nat} (h : s.treeWithin depth n = some t) : t.kind = s.kind n := by
  obtain ⟨rfl, hmatches⟩ := matches_of_treeWithin h
  cases hmatches
  rfl

lemma anyM_eq_holds {kind : Kind} {search : NodeId → Option Bool} {ids : List NodeId} {f : Forest}
    (h : List.Forall₂ (fun c t => search c = some (t.kind == kind || t.holds kind)) ids f) :
    ids.anyM search = some (Forest.holds kind f) := by
  induction h with
  | nil => rfl
  | @cons c t ids f hc _ ih =>
    rw [List.anyM_cons, Forest.holds, hc, ih]
    cases t.kind == kind || t.holds kind <;> rfl

lemma hasWithin_of_treeWithin (kind : Kind) {depth : Nat} (h : s.treeWithin depth n = some t) :
    s.hasWithin kind depth n = some (t.holds kind) := by
  induction depth generalizing n t with
  | zero => simp [treeWithin] at h
  | succ depth ih =>
    obtain ⟨children, hchildren, rfl⟩ := Option.map_eq_some_iff.mp h
    refine anyM_eq_holds ((mapM_eq_some.mp hchildren).imp fun c t ht => ?_)
    rw [kind_of_treeWithin ht, ih ht]
    by_cases hk : s.kind c = kind <;> simp [hk]

lemma exists_ancestor?_of_treeWithin {depth : Nat} (hs : s.WellFormed)
    (h : s.treeWithin depth n = none) : ∃ m, s.ancestor? depth m = some n := by
  induction depth generalizing n with
  | zero => exact ⟨n, rfl⟩
  | succ depth ih =>
    obtain ⟨c, hc, hnone⟩ := mapM_eq_none.mp (Option.map_eq_none_iff.mp h)
    obtain ⟨m, hm⟩ := ih hnone
    refine ⟨m, ?_⟩
    rw [ancestor?_add, hm]
    simp [ancestor?, (hs.mem_children_iff n c).mp hc]

end Store

namespace Tree.Matches

variable {s : Store} {m n : NodeId} {t u : Tree}

section Children

variable {children : Forest} (hs : s.WellFormed) (hids : children.map Tree.id = s.children n)

include hs hids

lemma parent?_of_mem (ht : t ∈ children) : s.parent? t.id = some n := by
  rw [← hs.mem_children_iff, ← hids]
  exact List.mem_map_of_mem ht

lemma exists_of_parent? (hm : s.parent? m = some n) : ∃ t ∈ children, t.id = m := by
  rw [← hs.mem_children_iff, ← hids] at hm
  exact List.mem_map.mp hm

end Children

lemma unique (ht : t.Matches s) (hu : u.Matches s) (hid : t.id = u.id) : t = u := by
  induction ht generalizing u with
  | node n children hids h ih =>
    cases hu with
    | node n' children' hids' h' =>
      obtain rfl : n = n' := hid
      congr 1
      have hmap := hids.trans hids'.symm
      have hlength : children.length = children'.length := by simpa using congrArg List.length hmap
      refine List.ext_getElem hlength fun i hi hi' => ?_
      have hget := List.getElem_of_eq hmap (i := i) (by simpa using hi)
      rw [List.getElem_map, List.getElem_map] at hget
      exact ih _ (List.getElem_mem hi) (h' _ (List.getElem_mem hi')) hget

lemma not_cyclic (hs : s.WellFormed) (ht : t.Matches s) : ¬ s.Cyclic t.id := by
  induction ht with
  | node n children hids h ih =>
    intro hn
    obtain ⟨m, hm, hcyclic⟩ := hn.exists_child
    obtain ⟨t, ht, rfl⟩ := exists_of_parent? hs hids hm
    exact ih t ht hcyclic

lemma mem_ids_of_parent? (hs : s.WellFormed) (ht : t.Matches s) {p : NodeId} (hp : p ∈ t.ids)
    (hm : s.parent? m = some p) : m ∈ t.ids := by
  induction ht with
  | node n children hids h ih =>
    rw [Tree.ids] at hp ⊢
    refine List.mem_cons_of_mem _ (Forest.mem_ids.mpr ?_)
    rcases List.mem_cons.mp hp with rfl | hp
    · obtain ⟨t, ht, rfl⟩ := exists_of_parent? hs hids hm
      exact ⟨t, ht, t.id_mem_ids⟩
    · obtain ⟨t, ht, hp⟩ := Forest.mem_ids.mp hp
      exact ⟨t, ht, ih t ht hp⟩

lemma mem_ids_iff (hs : s.WellFormed) (ht : t.Matches s) : m ∈ t.ids ↔ s.Climbs m t.id := by
  constructor
  · intro hm
    induction ht with
    | node n children hids h ih =>
      rcases List.mem_cons.mp hm with rfl | hm
      · exact .refl
      · obtain ⟨t, ht, hm⟩ := Forest.mem_ids.mp hm
        exact (ih t ht hm).tail (parent?_of_mem hs hids ht)
  · intro h
    induction h using Relation.ReflTransGen.head_induction_on with
    | refl => exact t.id_mem_ids
    | head hp _ ih => exact ht.mem_ids_of_parent? hs ih hp

end Tree.Matches

namespace Store

variable {s : Store} {n : NodeId} {t : Tree}

lemma has?_of_tree? (kind : Kind) (h : s.tree? n = some t) : s.has? kind n = some (t.holds kind) :=
  hasWithin_of_treeWithin kind h

lemma matches_of_tree? (h : s.tree? n = some t) : t.id = n ∧ t.Matches s := matches_of_treeWithin h

theorem tree?_eq_none_iff (hs : s.WellFormed) : s.tree? n = none ↔ s.Cyclic n := by
  constructor
  · intro h
    obtain ⟨m, hm⟩ := exists_ancestor?_of_treeWithin hs h
    exact cyclic_of_ancestor? hm
  · intro hn
    cases ht : s.tree? n with
    | none => rfl
    | some t =>
      obtain ⟨rfl, hmatches⟩ := matches_of_tree? ht
      exact (hmatches.not_cyclic hs hn).elim

lemma tree?_of_matches (hs : s.WellFormed) (ht : t.Matches s) : s.tree? t.id = some t := by
  cases h : s.tree? t.id with
  | none => exact (ht.not_cyclic hs ((tree?_eq_none_iff hs).mp h)).elim
  | some u =>
    obtain ⟨hid, hu⟩ := matches_of_tree? h
    rw [ht.unique hu hid.symm]

lemma exists_tree (hs : s.WellFormed) (hn : ¬ s.Cyclic n) : ∃ t, s.tree? n = some t :=
  Option.ne_none_iff_exists'.mp fun h => hn ((tree?_eq_none_iff hs).mp h)

end Store

end SlideDeck
