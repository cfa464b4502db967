import SlideDeck.Proofs.Store.Reading

/-! Parents and child lists tell the same story in every store that is built by making nodes and by
attaching nodes that have no parent. -/

namespace SlideDeck

structure Node.SameShape (a b : Node) : Prop where
  parent? : b.parent? = a.parent?
  children : b.children = a.children
  kind : b.kind = a.kind
  listing? : b.content.listing? = a.content.listing?

lemma Node.sameShape_mapArguments (n : Node) (f : Arguments → Arguments) :
    n.SameShape (n.mapArguments f) where
  parent? := rfl
  children := rfl
  kind := Content.kind_mapArguments f n.content
  listing? := by
    rw [Node.mapArguments, Node.mapContent]
    cases n.content <;> rfl

namespace Store

/-- A container has a node among its children at most once, and exactly if it is the node's parent. -/
def SingleOwnership (s : Store) : Prop :=
  ∀ c n, (s.children c).count n ≤ 1 ∧ (n ∈ s.children c ↔ s.parent? n = some c)

structure Container (s : Store) (c : NodeId) : Prop where
  lt_size : c < s.size
  isContainer : (s.kind c).isContainer = true

structure WellFormed (s : Store) : Prop where
  nodup_children (c : NodeId) : (s.children c).Nodup
  mem_children_iff (c n : NodeId) : n ∈ s.children c ↔ s.parent? n = some c
  children_eq_nil (n : NodeId) : (s.kind n).isContainer = false → s.children n = []
  /-- The listing of code stays where it was made. -/
  listing (c l : NodeId) : (s.node c).content.listing? = some l →
    s.parent? l = some c ∧ s.kind l = .environment

structure SameShape (s t : Store) : Prop where
  size : t.size = s.size
  node (n : NodeId) : (s.node n).SameShape (t.node n)

/-- What making and attaching nodes keeps: nodes, their kinds, and parents once they are set. -/
structure Grows (s t : Store) : Prop where
  size_le : s.size ≤ t.size
  kind (n : NodeId) : n < s.size → t.kind n = s.kind n
  parent? (n p : NodeId) : s.parent? n = some p → t.parent? n = some p

lemma WellFormed.singleOwnership {s : Store} (h : s.WellFormed) : s.SingleOwnership :=
  fun c n => ⟨List.nodup_iff_count_le_one.mp (h.nodup_children c) n, h.mem_children_iff c n⟩

lemma WellFormed.parent_lt_size {s : Store} (h : s.WellFormed) {c n : NodeId}
    (hn : s.parent? n = some c) : c < s.size :=
  lt_size_of_mem_children s c n ((h.mem_children_iff c n).mpr hn)

lemma wellFormed_empty : ({} : Store).WellFormed where
  nodup_children c := by simp [children, node]
  mem_children_iff c n := by simp [children, parent?, node]
  children_eq_nil n _ := by simp [children, node]
  listing c l h := by simp [node, Content.listing?] at h

lemma Grows.refl (s : Store) : s.Grows s := ⟨Nat.le_refl _, fun _ _ => rfl, fun _ _ h => h⟩

lemma Grows.trans {s t u : Store} (h : s.Grows t) (h' : t.Grows u) : s.Grows u where
  size_le := Nat.le_trans h.size_le h'.size_le
  kind n hn := (h'.kind n (Nat.lt_of_lt_of_le hn h.size_le)).trans (h.kind n hn)
  parent? n p hp := h'.parent? n p (h.parent? n p hp)

lemma Grows.container {s t : Store} (h : s.Grows t) {c : NodeId} (hc : s.Container c) :
    t.Container c where
  lt_size := Nat.lt_of_lt_of_le hc.lt_size h.size_le
  isContainer := by rw [h.kind c hc.lt_size]; exact hc.isContainer

lemma SameShape.refl (s : Store) : s.SameShape s := ⟨rfl, fun _ => ⟨rfl, rfl, rfl, rfl⟩⟩

lemma SameShape.children {s t : Store} (h : s.SameShape t) (n : NodeId) :
    t.children n = s.children n := (h.node n).children

lemma SameShape.parent? {s t : Store} (h : s.SameShape t) (n : NodeId) :
    t.parent? n = s.parent? n := (h.node n).parent?

lemma SameShape.kind {s t : Store} (h : s.SameShape t) (n : NodeId) : t.kind n = s.kind n :=
  (h.node n).kind

lemma SameShape.grows {s t : Store} (h : s.SameShape t) : s.Grows t where
  size_le := Nat.le_of_eq h.size.symm
  kind n _ := h.kind n
  parent? n p hp := by rw [h.parent?, hp]

lemma SameShape.wellFormed {s t : Store} (h : s.SameShape t) (hs : s.WellFormed) : t.WellFormed where
  nodup_children c := by rw [h.children]; exact hs.nodup_children c
  mem_children_iff c n := by rw [h.children, h.parent?]; exact hs.mem_children_iff c n
  children_eq_nil n hn := by rw [h.children]; exact hs.children_eq_nil n (by rwa [h.kind] at hn)
  listing c l hl := by
    rw [h.parent?, h.kind]
    exact hs.listing c l (by rwa [(h.node c).listing?] at hl)

lemma sameShape_modify (s : Store) (n : NodeId) {f : Node → Node}
    (h : (s.node n).SameShape (f (s.node n))) : s.SameShape (s.modify n f) where
  size := size_modify s n f
  node m := by
    rw [node_modify]
    split_ifs with hm
    · exact hm.1 ▸ h
    · exact ⟨rfl, rfl, rfl, rfl⟩

section Create

variable (s : Store) (draft : Draft)

lemma grows_create : s.Grows (s.create draft).1 where
  size_le := Nat.le_of_lt (size_lt_size_create s draft)
  kind n hn := by simp [kind, node_create_of_lt s draft hn]
  parent? n p hp := by
    rw [parent?, node_create_of_lt s draft (lt_size_of_parent? s n hp)]
    exact hp

lemma kind_create_size : (s.create draft).1.kind s.size = (draft.content (s.size + 1)).kind := by
  simp only [kind, Node.kind, node_create_size]

lemma listing?_content (l : NodeId) :
    (draft.content l).listing? = if draft.listing?.isSome then some l else none := by
  cases draft <;> rfl

lemma isContainer_content (l : NodeId) (h : draft.listing?.isSome) :
    (draft.content l).kind.isContainer = true := by
  cases draft with
  | code => rfl
  | _ => simp [Draft.listing?] at h

variable {s draft}

lemma node_create_of_size_lt {n : NodeId} (h : s.size < n) :
    ((s.create draft).1.node n).content =
      if n = s.size + 1 then draft.listing?.getD .header else .header := by
  rw [create]
  cases draft.listing? with
  | none => rw [node_push, if_neg (Nat.ne_of_gt h), node_of_size_le s n (Nat.le_of_lt h)]; simp
  | some listing =>
    by_cases hn : n = s.size + 1
    · subst hn; simp [node_push]
    · simp only
      rw [node_push, size_push, if_neg hn, node_push, if_neg (Nat.ne_of_gt h),
        node_of_size_le s n (Nat.le_of_lt h), if_neg hn]

lemma kind_listing {listing : Content} (h : draft.listing? = some listing) :
    listing.kind = .environment := by
  cases draft with
  | code => cases h; rfl
  | _ => simp [Draft.listing?] at h

lemma WellFormed.mem_children_create_iff (h : s.WellFormed) (c n : NodeId) :
    n ∈ (s.create draft).1.children c ↔ (s.create draft).1.parent? n = some c := by
  rw [children_create, parent?_create]
  by_cases hl : draft.listing?.isSome
  · have hold : s.parent? (s.size + 1) = none := by
      simp [Store.parent?, node_of_size_le]
    by_cases hc : c = s.size <;> by_cases hn : n = s.size + 1
    · simp [hc, hn, hl]
    · have : s.parent? n ≠ some s.size := fun hp => Nat.lt_irrefl _ (h.parent_lt_size hp)
      simp [hc, hn, hl, this]
    · have := h.mem_children_iff c (s.size + 1)
      simp only [hc, hn, hl, false_and, true_and, if_true, if_false, this, hold]
      simp [Ne.symm hc]
    · simp [hc, hn, h.mem_children_iff]
  · simp [hl, h.mem_children_iff]

lemma WellFormed.listing_create (h : s.WellFormed) {c l : NodeId}
    (hl : ((s.create draft).1.node c).content.listing? = some l) :
    (s.create draft).1.parent? l = some c ∧ (s.create draft).1.kind l = .environment := by
  rcases Nat.lt_trichotomy c s.size with hc | hc | hc
  · rw [node_create_of_lt s draft hc] at hl
    obtain ⟨hp, hk⟩ := h.listing c l hl
    have hlt := lt_size_of_parent? s l hp
    exact ⟨(grows_create s draft).parent? l c hp, by rw [(grows_create s draft).kind l hlt, hk]⟩
  · subst hc
    rw [node_create_size, listing?_content] at hl
    split_ifs at hl with hsome
    obtain ⟨listing, hlisting⟩ := Option.isSome_iff_exists.mp hsome
    obtain rfl := Option.some.inj hl
    refine ⟨by rw [parent?_create, if_pos ⟨rfl, hsome⟩], ?_⟩
    rw [kind, Node.kind, node_create_of_size_lt (Nat.lt_succ_self _), if_pos rfl, hlisting]
    exact kind_listing hlisting
  · -- what is made after the node is its listing, which is no code
    rw [node_create_of_size_lt hc] at hl
    split_ifs at hl with hn
    · cases hlisting : draft.listing? with
      | none => simp [hlisting, Content.listing?] at hl
      | some listing =>
        have hk := kind_listing hlisting
        rw [hlisting] at hl
        cases listing <;> simp [Content.listing?, Content.kind] at hl hk
    · simp [Content.listing?] at hl

lemma WellFormed.create (h : s.WellFormed) : (s.create draft).1.WellFormed where
  nodup_children c := by
    rw [children_create]
    split_ifs
    · exact List.nodup_singleton _
    · exact h.nodup_children c
  mem_children_iff := h.mem_children_create_iff
  children_eq_nil n hn := by
    rw [children_create]
    split_ifs with hl
    · rw [hl.1, kind_create_size, isContainer_content draft _ hl.2] at hn
      simp at hn
    · by_cases hlt : n < s.size
      · rw [(grows_create s draft).kind n hlt] at hn
        exact h.children_eq_nil n hn
      · simp [Store.children, node_of_size_le s n (Nat.le_of_not_lt hlt)]
  listing _ _ hl := h.listing_create hl

end Create

section Link

variable {s : Store} {c n : NodeId} (place : Place)

lemma grows_link (hn : n < s.size) (hfree : s.parent? n = none) : s.Grows (s.link c n place) where
  size_le := Nat.le_of_eq (size_link s n c place).symm
  kind m _ := kind_link s n m c place
  parent? m p hp := by
    have hm : m ≠ n := fun h => by simp [h, hfree] at hp
    rw [parent?_link s n m hn, if_neg hm, hp]

lemma WellFormed.link (h : s.WellFormed) (hc : s.Container c) (hn : n < s.size)
    (hfree : s.parent? n = none) : (s.link c n place).WellFormed where
  nodup_children d := by
    rw [children_link s n d hc.lt_size]
    split_ifs
    · refine place.nodup_insert ?_ (h.nodup_children c)
      rw [h.mem_children_iff, hfree]
      simp
    · exact h.nodup_children d
  mem_children_iff d m := by
    rw [children_link s n d hc.lt_size, parent?_link s n m hn]
    by_cases hd : d = c <;> by_cases hm : m = n
    · simp [hd, hm, Place.mem_insert]
    · simp [hd, hm, Place.mem_insert, h.mem_children_iff]
    · simp [hd, hm, h.mem_children_iff, hfree, Ne.symm hd]
    · simp [hd, hm, h.mem_children_iff]
  children_eq_nil m hm := by
    rw [kind_link] at hm
    have hmc : m ≠ c := fun heq => by simp [heq, hc.isContainer] at hm
    rw [children_link s n m hc.lt_size, if_neg hmc]
    exact h.children_eq_nil m hm
  listing d l hl := by
    rw [node_link] at hl
    obtain ⟨hp, hk⟩ := h.listing d l hl
    exact ⟨(grows_link place hn hfree).parent? l d hp, by rw [kind_link, hk]⟩

end Link

end Store

end SlideDeck
