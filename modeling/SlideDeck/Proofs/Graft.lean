import SlideDeck.Proofs.Tree
import SlideDeck.Store.Adoption

/-! A tree that is put into another one as a child of one of its nodes. -/

namespace SlideDeck

def Tree.brings (kind : Kind) (t : Tree) : Bool := t.kind == kind || t.holds kind

namespace Place

def plant (place : Place) (guest : Tree) (children : Forest) : Forest :=
  match place with
  | .first => guest :: children
  | .last => children ++ [guest]

variable (place : Place) (guest : Tree) (children : Forest)

lemma mem_plant {t : Tree} : t ∈ place.plant guest children ↔ t = guest ∨ t ∈ children := by
  cases place <;> simp [plant, or_comm]

lemma map_id_plant :
    (place.plant guest children).map Tree.id = place.insert guest.id (children.map Tree.id) := by
  cases place <;> simp [plant, insert]

lemma holds_plant (kind : Kind) : Forest.holds kind (place.plant guest children) =
    (Forest.holds kind children || guest.brings kind) := by
  rw [Forest.holds_eq, Forest.holds_eq, Tree.brings]
  cases place with
  | first => rw [plant, List.any_cons, Bool.or_comm]
  | last => rw [plant, List.any_append, List.any_cons, List.any_nil, Bool.or_false]

end Place

section Definition

variable (c : NodeId) (place : Place)

mutual

def Tree.graftInto (guest : Tree) : (host : Tree) → Tree
  | .node id root children =>
    let below := Forest.graftInto guest children
    if id = c then
      .node id { root with children := place.insert guest.id root.children } (place.plant guest below)
    else .node id root below

def Forest.graftInto (guest : Tree) : Forest → Forest
  | [] => []
  | tree :: rest => guest.graftInto tree :: Forest.graftInto guest rest

end

end Definition

variable {c : NodeId} {place : Place} {guest : Tree}

lemma Tree.id_graftInto (t : Tree) : (guest.graftInto c place t).id = t.id := by
  cases t with
  | node id root children =>
    rw [Tree.graftInto]
    split <;> rfl

lemma Tree.kind_graftInto (t : Tree) : (guest.graftInto c place t).kind = t.kind := by
  cases t with
  | node id root children =>
    rw [Tree.graftInto]
    split <;> rfl

lemma Forest.graftInto_eq (f : Forest) :
    Forest.graftInto c place guest f = f.map (guest.graftInto c place) := by
  induction f with
  | nil => rfl
  | cons t rest ih => rw [Forest.graftInto, ih, List.map_cons]

lemma Forest.map_id_graftInto (f : Forest) :
    (Forest.graftInto c place guest f).map Tree.id = f.map Tree.id := by
  rw [Forest.graftInto_eq, List.map_map]
  exact List.map_congr_left fun t _ => Tree.id_graftInto t

mutual

theorem Tree.graftInto_of_not_mem : ∀ t : Tree, c ∉ t.ids → guest.graftInto c place t = t
  | .node id root children, h => by
    rw [Tree.ids, List.mem_cons, not_or] at h
    rw [Tree.graftInto, if_neg fun heq => h.1 heq.symm, Forest.graftInto_of_not_mem children h.2]

theorem Forest.graftInto_of_not_mem :
    ∀ f : Forest, c ∉ Forest.ids f → Forest.graftInto c place guest f = f
  | [], _ => rfl
  | t :: rest, h => by
    rw [Forest.ids, List.mem_append, not_or] at h
    rw [Forest.graftInto, Tree.graftInto_of_not_mem t h.1, Forest.graftInto_of_not_mem rest h.2]

end

mutual

theorem Tree.holds_graftInto (kind : Kind) : ∀ t : Tree, c ∈ t.ids →
    (guest.graftInto c place t).holds kind = (t.holds kind || guest.brings kind)
  | .node id root children, h => by
    have hbelow : Forest.holds kind (Forest.graftInto c place guest children) =
        (Forest.holds kind children || (decide (c ∈ Forest.ids children) && guest.brings kind)) := by
      by_cases hc : c ∈ Forest.ids children
      · simp [Forest.holds_graftInto kind children hc, hc]
      · simp [Forest.graftInto_of_not_mem children hc, hc]
    rw [Tree.graftInto]
    split
    · rw [Tree.holds, Tree.holds, Place.holds_plant, hbelow]
      cases decide (c ∈ Forest.ids children) <;> cases guest.brings kind <;> simp
    · next hid =>
      have hc : c ∈ Forest.ids children := (List.mem_cons.mp h).resolve_left fun heq => hid heq.symm
      rw [Tree.holds, Tree.holds, hbelow, decide_eq_true hc, Bool.true_and]

theorem Forest.holds_graftInto (kind : Kind) : ∀ f : Forest, c ∈ Forest.ids f →
    Forest.holds kind (Forest.graftInto c place guest f) = (Forest.holds kind f || guest.brings kind)
  | [], h => by simp [Forest.ids] at h
  | t :: rest, h => by
    rw [Forest.ids, List.mem_append] at h
    rw [Forest.graftInto, Forest.holds, Forest.holds, Tree.kind_graftInto]
    by_cases ht : c ∈ t.ids
    · rw [Tree.holds_graftInto kind t ht]
      by_cases hrest : c ∈ Forest.ids rest
      · rw [Forest.holds_graftInto kind rest hrest]
        cases guest.brings kind <;> simp
      · rw [Forest.graftInto_of_not_mem rest hrest]
        cases guest.brings kind <;> simp
    · rw [Tree.graftInto_of_not_mem t ht,
        Forest.holds_graftInto kind rest (h.resolve_left ht)]
      simp only [Bool.or_assoc]

end

end SlideDeck
