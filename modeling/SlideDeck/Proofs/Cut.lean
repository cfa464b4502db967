import SlideDeck.Proofs.Fragile
import SlideDeck.Proofs.Graft
import SlideDeck.Proofs.Layout

/-! Where the pieces of a tree that is put into another one come to stand among those of the other. -/

namespace SlideDeck

structure Cut where
  before : List Piece
  depth : Nat
  after : List Piece

namespace Cut

open Layout (deepenBy levels opening closing)

def fill (x : Cut) (pieces : List Piece) : List Piece :=
  x.before ++ deepenBy x.depth pieces ++ x.after

def within (root : Node) (holdsCode : Bool) (x : Cut) : Cut where
  before := opening root holdsCode ++ deepenBy (levels root) x.before
  depth := x.depth + levels root
  after := deepenBy (levels root) x.after ++ closing root holdsCode

def beside (left right : List Piece) (x : Cut) : Cut where
  before := left ++ x.before
  depth := x.depth
  after := x.after ++ right

lemma fill_within {root : Node} (h : root.kind.isContainer = true) (holdsCode : Bool) (x : Cut)
    (pieces : List Piece) :
    (x.within root holdsCode).fill pieces = Layout.node root holdsCode (x.fill pieces) := by
  rw [Layout.node_eq h]
  simp only [fill, within, Layout.deepenBy_append, Layout.deepenBy_deepenBy, List.append_assoc]

lemma fill_beside (left right : List Piece) (x : Cut) (pieces : List Piece) :
    (x.beside left right).fill pieces = left ++ x.fill pieces ++ right := by
  simp only [fill, beside, List.append_assoc]

end Cut

namespace Place

def cut (place : Place) (body : List Piece) : Cut :=
  match place with
  | .first => { before := [], depth := 0, after := body }
  | .last => { before := body, depth := 0, after := [] }

variable (place : Place) (guest : Tree) (children : Forest)

lemma pieces_plant : Forest.pieces (place.plant guest children) =
    (place.cut (Forest.pieces children)).fill guest.pieces := by
  cases place <;> simp [plant, cut, Cut.fill, Forest.pieces_eq, Layout.deepenBy_zero]

lemma fill_cut_nil (body : List Piece) : (place.cut body).fill [] = body := by
  cases place <;> simp [cut, Cut.fill, Layout.deepenBy_zero]

end Place

section Definition

variable (c : NodeId) (place : Place)

mutual

/-- Where the pieces of a tree are cut by the place in the container at `c`. -/
def Tree.cut? : Tree → Option Cut
  | .node id root children =>
    (if id = c then some (place.cut (Forest.pieces children)) else Forest.cut? children).map
      (Cut.within root (Forest.holds .code children))

def Forest.cut? : Forest → Option Cut
  | [] => none
  | tree :: rest =>
    match tree.cut? with
    | some x => some (x.beside [] (Forest.pieces rest))
    | none => (Forest.cut? rest).map (Cut.beside tree.pieces [])

end

end Definition

variable {c : NodeId} {place : Place} {guest : Tree}

mutual

theorem Tree.cut?_of_not_mem : ∀ t : Tree, c ∉ t.ids → t.cut? c place = none
  | .node id root children, h => by
    rw [Tree.ids, List.mem_cons, not_or] at h
    rw [Tree.cut?, if_neg fun heq => h.1 heq.symm, Forest.cut?_of_not_mem children h.2]
    rfl

theorem Forest.cut?_of_not_mem : ∀ f : Forest, c ∉ Forest.ids f → Forest.cut? c place f = none
  | [], _ => rfl
  | t :: rest, h => by
    rw [Forest.ids, List.mem_append, not_or] at h
    rw [Forest.cut?, Tree.cut?_of_not_mem t h.1, Forest.cut?_of_not_mem rest h.2]
    rfl

end

structure Cut.Splices (x : Cut) (before after guest : List Piece) : Prop where
  before_eq : before = x.fill []
  after_eq : after = x.fill guest

def Tree.Takes (c : NodeId) (place : Place) (guest host : Tree) : Prop :=
  ∃ x, (host.readied (guest.brings .code) c).cut? c place = some x ∧
    x.Splices (host.readied (guest.brings .code) c).pieces (guest.graftInto c place host).pieces
      guest.pieces

lemma Forest.exists_cut {f : Forest} (h : ∀ t ∈ f, c ∈ t.ids → guest.Takes c place t)
    (hnodup : (Forest.ids f).Nodup) (hc : c ∈ Forest.ids f) :
    ∃ x, Forest.cut? c place (Forest.readied (guest.brings .code) c f) = some x ∧
      x.Splices (Forest.pieces (Forest.readied (guest.brings .code) c f))
        (Forest.pieces (Forest.graftInto c place guest f)) guest.pieces := by
  induction f with
  | nil => simp [Forest.ids] at hc
  | cons t rest ih =>
    rw [Forest.ids, List.nodup_append'] at hnodup
    obtain ⟨-, hrest, hdisjoint⟩ := hnodup
    rw [Forest.readied_cons, Forest.graftInto, Forest.pieces, Forest.pieces, Forest.cut?]
    by_cases ht : c ∈ t.ids
    · have hnot : c ∉ Forest.ids rest := fun hmem => hdisjoint ht hmem
      obtain ⟨x, hcut, hsplices⟩ := h t List.mem_cons_self ht
      rw [hcut, Forest.readied_of_not_mem hnot, Forest.graftInto_of_not_mem rest hnot]
      refine ⟨x.beside [] (Forest.pieces rest), rfl, ?_, ?_⟩
      · rw [Cut.fill_beside, hsplices.before_eq, List.nil_append]
      · rw [Cut.fill_beside, hsplices.after_eq, List.nil_append]
    · have hmem : c ∈ Forest.ids rest := by
        rw [Forest.ids, List.mem_append] at hc
        exact hc.resolve_left ht
      obtain ⟨x, hcut, hsplices⟩ := ih (fun u hu => h u (List.mem_cons_of_mem _ hu)) hrest hmem
      rw [Tree.readied_of_not_mem ht, Tree.graftInto_of_not_mem t ht, Tree.cut?_of_not_mem t ht, hcut]
      refine ⟨x.beside t.pieces [], rfl, ?_, ?_⟩
      · rw [Cut.fill_beside, hsplices.before_eq, List.append_nil]
      · rw [Cut.fill_beside, hsplices.after_eq, List.append_nil]

lemma Tree.takes_node {id : NodeId} {root : Node} {children : Forest}
    (hroot : root.kind.isContainer = true) (hnodup : (Tree.node id root children).ids.Nodup)
    (h : ∀ t ∈ children, c ∈ t.ids → guest.Takes c place t)
    (hc : c ∈ (Tree.node id root children).ids) : guest.Takes c place (.node id root children) := by
  rw [Tree.ids, List.nodup_cons] at hnodup
  rw [Tree.ids] at hc
  have hcontainer : (root.readied (guest.brings .code) (Forest.holds .code children)).kind.isContainer
      = true := by rw [Node.kind_readied, hroot]
  rw [Tree.Takes, Tree.readied_node hc, Tree.cut?, Tree.graftInto, Forest.holds_readied]
  by_cases hid : id = c
  · -- the guest joins the children of the root itself
    have hnot : c ∉ Forest.ids children := hid ▸ hnodup.1
    rw [if_pos hid, if_pos hid, Forest.readied_of_not_mem hnot, Forest.graftInto_of_not_mem _ hnot]
    refine ⟨_, rfl, ?_, ?_⟩
    · rw [Cut.fill_within hcontainer, Place.fill_cut_nil, Tree.pieces]
    · rw [Cut.fill_within hcontainer, Layout.node_readied, Tree.pieces, Place.pieces_plant,
        Place.holds_plant]
      rfl
  · have hmem : c ∈ Forest.ids children := (List.mem_cons.mp hc).resolve_left fun heq => hid heq.symm
    obtain ⟨x, hcut, hsplices⟩ := Forest.exists_cut h hnodup.2 hmem
    rw [if_neg hid, if_neg hid, hcut]
    refine ⟨_, rfl, ?_, ?_⟩
    · rw [Cut.fill_within hcontainer, ← hsplices.before_eq, Tree.pieces, Forest.holds_readied]
    · rw [Cut.fill_within hcontainer, ← hsplices.after_eq, Layout.node_readied, Tree.pieces,
        Forest.holds_graftInto .code children hmem]

end SlideDeck
