import SlideDeck.Proofs.Store.Ancestry
import SlideDeck.Proofs.Store.Edit

/-! Where cycles come from. A new edge closes one exactly if it leads from a node to a container below it, and
edits close none. -/

namespace SlideDeck.Store

variable {s t : Store} {a c m n : NodeId}

lemma climbs_link (place : Place) (hn : n < s.size) (hfree : s.parent? n = none) :
    (s.link c n place).Climbs m a ↔ s.Climbs m a ∨ s.Climbs m n ∧ s.Climbs c a := by
  have hgrows := grows_link (c := c) place hn hfree
  have hedge : (s.link c n place).Climbs n c :=
    .single (by rw [parent?_link s n n hn, if_pos rfl])
  constructor
  · intro h
    induction h with
    | refl => exact .inl .refl
    | @tail b d _ hd ih =>
      rw [parent?_link s n b hn] at hd
      split_ifs at hd with hb
      · -- the new edge itself: what led to it before leads to `n`
        subst hb
        obtain rfl := Option.some.inj hd
        exact .inr ⟨ih.elim id And.left, .refl⟩
      · exact ih.imp (fun h => h.tail hd) (fun h => ⟨h.1, h.2.tail hd⟩)
  · rintro (h | ⟨hm, hc⟩)
    · exact h.grows hgrows
    · exact ((hm.grows hgrows).trans hedge).trans (hc.grows hgrows)

lemma cyclic_link (place : Place) (hn : n < s.size) (hfree : s.parent? n = none) :
    (s.link c n place).Cyclic m ↔ s.Cyclic m ∨ s.Climbs c m ∧ s.Climbs m n := by
  constructor
  · rintro ⟨p, hp, hback⟩
    rw [climbs_link place hn hfree] at hback
    rw [parent?_link s n m hn] at hp
    split_ifs at hp with hm
    · subst hm
      obtain rfl := Option.some.inj hp
      exact .inr ⟨hback.elim id And.left, .refl⟩
    · rcases hback with h | ⟨hpn, hcm⟩
      · exact .inl ⟨p, hp, h⟩
      · exact .inr ⟨hcm, .head hp hpn⟩
  · rintro (h | ⟨hcm, hmn⟩)
    · exact h.grows (grows_link place hn hfree)
    · have hmc : (s.link c n place).Climbs m c := (climbs_link place hn hfree).mpr (.inr ⟨hmn, .refl⟩)
      rcases hmn.cases_head with rfl | ⟨p, hp, hpn⟩
      · exact ⟨c, by rw [parent?_link s m m hn, if_pos rfl], (climbs_link place hn hfree).mpr (.inl hcm)⟩
      · exact ⟨p, (grows_link place hn hfree).parent? m p hp,
          (climbs_link place hn hfree).mpr (.inr ⟨hpn, hcm⟩)⟩

lemma SameShape.climbs_iff (h : s.SameShape t) : t.Climbs m a ↔ s.Climbs m a := by
  simp only [Climbs, h.parent?]

lemma SameShape.cyclic_iff (h : s.SameShape t) : t.Cyclic m ↔ s.Cyclic m := by
  simp only [Cyclic, h.parent?, h.climbs_iff]

lemma climbs_create (hs : s.WellFormed) (draft : Draft) (hm : m < s.size) :
    (s.create draft).1.Climbs m a ↔ s.Climbs m a ∧ a < s.size := by
  constructor
  · intro h
    induction h with
    | refl => exact ⟨.refl, hm⟩
    | @tail b d _ hd ih =>
      rw [parent?, node_create_of_lt s draft ih.2] at hd
      exact ⟨ih.1.tail hd, hs.parent_lt_size hd⟩
  · exact fun h => h.1.grows (grows_create s draft)

lemma cyclic_create (hs : s.WellFormed) (draft : Draft) :
    (s.create draft).1.Cyclic m ↔ s.Cyclic m := by
  constructor
  · rintro ⟨p, hp, hback⟩
    by_cases hm : m < s.size
    · rw [parent?, node_create_of_lt s draft hm] at hp
      exact ⟨p, hp, ((climbs_create hs draft (hs.parent_lt_size hp)).mp hback).1⟩
    · rw [parent?_create] at hp
      split_ifs at hp with hlisting
      · obtain rfl := Option.some.inj hp
        have hroot := hback.eq_of_free (parent?_create_size draft)
        exact absurd (hroot.symm.trans hlisting.1) (Nat.ne_of_lt (Nat.lt_succ_self _))
      · exact absurd (lt_size_of_parent? s m hp) hm
  · exact fun h => h.grows (grows_create s draft)

lemma Edit.cyclic_iff (hs : s.WellFormed) (h : s.Edit t) : t.Cyclic m ↔ s.Cyclic m := by
  cases h with
  | alter h => exact h.cyclic_iff
  | create draft => exact cyclic_create hs draft
  | @plant c draft place hc =>
    rw [createIn_fst, cyclic_link place (size_lt_size_create s draft) (parent?_create_size draft),
      cyclic_create hs]
    refine or_iff_left fun ⟨hcm, hms⟩ => ?_
    -- the new node is above no old one
    exact Nat.lt_irrefl _ ((climbs_create hs draft hc.lt_size).mp (hcm.trans hms)).2

lemma Edits.cyclic_iff (hs : s.WellFormed) (h : s.Edits t) : t.Cyclic m ↔ s.Cyclic m := by
  induction h with
  | refl => rfl
  | tail he hedit ih => rw [hedit.cyclic_iff (Edits.wellFormed he hs), ih]

/-- Each node hangs below one root, in one place. -/
structure IsForest (s : Store) : Prop where
  ownership : s.SingleOwnership
  acyclic (n : NodeId) : ¬ s.Cyclic n
  root (n : NodeId) : ∃ r, s.Climbs n r ∧ s.parent? r = none

lemma WellFormed.isForest (hs : s.WellFormed) (h : ∀ n, ¬ s.Cyclic n) : s.IsForest where
  ownership := hs.singleOwnership
  acyclic := h
  root _ := exists_root fun a _ => h a

end SlideDeck.Store
