import SlideDeck.Proofs.Store.Ownership

/-! The edits of a store that need no look at what is attached where. All that a presentation or a step does
at once is made of them; what is left is to attach a node that has been there before. -/

namespace SlideDeck.Store

inductive Edit : Store → Store → Prop
  | alter {s t : Store} (h : s.SameShape t) : Edit s t
  | create (s : Store) (draft : Draft) : Edit s (s.create draft).1
  | plant {s : Store} {c : NodeId} (draft : Draft) (place : Place) (hc : s.Container c) :
      Edit s (s.createIn c draft place).1

abbrev Edits : Store → Store → Prop := Relation.ReflTransGen Edit

variable {s t : Store}

lemma createIn_fst (c : NodeId) (draft : Draft) (place : Place) :
    (s.createIn c draft place).1 = (s.create draft).1.link c s.size place := by
  simp only [createIn, create_snd]

lemma createIn_snd (c : NodeId) (draft : Draft) (place : Place) :
    (s.createIn c draft place).2 = s.size := create_snd s draft

lemma parent?_create_size (draft : Draft) : (s.create draft).1.parent? s.size = none := by
  rw [parent?_create, if_neg (fun h => Nat.ne_of_lt (Nat.lt_succ_self _) h.1)]
  simp [parent?, node_of_size_le]

lemma Edit.grows (h : s.Edit t) : s.Grows t := by
  cases h with
  | alter h => exact h.grows
  | create draft => exact grows_create s draft
  | plant draft place hc =>
    rw [createIn_fst]
    exact (grows_create s draft).trans
      (grows_link place (size_lt_size_create s draft) (parent?_create_size draft))

lemma Edit.wellFormed (h : s.Edit t) (hs : s.WellFormed) : t.WellFormed := by
  cases h with
  | alter h => exact h.wellFormed hs
  | create draft => exact hs.create
  | plant draft place hc =>
    rw [createIn_fst]
    exact hs.create.link place ((grows_create s draft).container hc) (size_lt_size_create s draft)
      (parent?_create_size draft)

lemma Edits.grows (h : s.Edits t) : s.Grows t := by
  induction h with
  | refl => exact Grows.refl s
  | tail _ he ih => exact ih.trans he.grows

lemma Edits.wellFormed (h : s.Edits t) (hs : s.WellFormed) : t.WellFormed := by
  induction h with
  | refl => exact hs
  | tail _ he ih => exact he.wellFormed ih

structure HasKind (s : Store) (n : NodeId) (kind : Kind) : Prop where
  lt_size : n < s.size
  kind_eq : s.kind n = kind

lemma HasKind.container {n : NodeId} {kind : Kind} (h : s.HasKind n kind)
    (hk : kind.isContainer = true) : s.Container n where
  lt_size := h.lt_size
  isContainer := by rw [h.kind_eq]; exact hk

lemma Grows.hasKind (h : s.Grows t) {n : NodeId} {kind : Kind} (hn : s.HasKind n kind) :
    t.HasKind n kind where
  lt_size := Nat.lt_of_lt_of_le hn.lt_size h.size_le
  kind_eq := by rw [h.kind n hn.lt_size]; exact hn.kind_eq

lemma hasKind_create (draft : Draft) :
    (s.create draft).1.HasKind (s.create draft).2 (draft.content (s.size + 1)).kind where
  lt_size := by rw [create_snd]; exact size_lt_size_create s draft
  kind_eq := by rw [create_snd, kind_create_size]

lemma hasKind_createIn (c : NodeId) (draft : Draft) (place : Place) :
    (s.createIn c draft place).1.HasKind (s.createIn c draft place).2
      (draft.content (s.size + 1)).kind where
  lt_size := by
    rw [createIn_fst, createIn_snd, size_link]
    exact size_lt_size_create s draft
  kind_eq := by rw [createIn_fst, createIn_snd, kind_link, kind_create_size]

lemma createAllIn_edits {c : NodeId} (hc : s.Container c) (drafts : List Draft) :
    s.Edits (s.createAllIn c drafts) := by
  rw [createAllIn]
  induction drafts generalizing s with
  | nil => exact .refl
  | cons draft drafts ih =>
    have he : s.Edit (s.createIn c draft .last).1 := .plant draft .last hc
    exact .head he (ih (he.grows.container hc))

end SlideDeck.Store
