import Mathlib.Data.Finset.Card
import SlideDeck.Proofs.Store.Ownership

/-! The way up from a node along parents. It ends at a node without a parent or goes round a cycle, and then
it does so within as many steps as there are nodes. -/

namespace SlideDeck.Store

/-- Following parents from `n` one comes to `a`, which may be `n` itself. -/
def Climbs (s : Store) : NodeId → NodeId → Prop :=
  Relation.ReflTransGen fun n p => s.parent? n = some p

/-- The node is its own proper ancestor. -/
def Cyclic (s : Store) (n : NodeId) : Prop := ∃ p, s.parent? n = some p ∧ s.Climbs p n

def ancestor? (s : Store) : (steps : Nat) → NodeId → Option NodeId
  | 0, n => some n
  | steps + 1, n => (s.parent? n).bind (s.ancestor? steps)

variable {s t : Store} {a b c m n p : NodeId}

lemma Climbs.grows (h : s.Climbs n a) (hg : s.Grows t) : t.Climbs n a :=
  Relation.ReflTransGen.mono (fun m p hp => hg.parent? m p hp) _ _ h

lemma Cyclic.grows (h : s.Cyclic n) (hg : s.Grows t) : t.Cyclic n := by
  obtain ⟨p, hp, h⟩ := h
  exact ⟨p, hg.parent? n p hp, h.grows hg⟩

lemma Climbs.of_parent? (h : s.parent? n = some p) : s.Climbs n p := .single h

lemma Climbs.eq_of_free (h : s.Climbs n a) (hn : s.parent? n = none) : a = n := by
  rcases h.cases_head with rfl | ⟨p, hp, -⟩
  · rfl
  · rw [hn] at hp
    simp at hp

lemma Climbs.lt_size (h : s.Climbs n a) (ha : a < s.size) : n < s.size := by
  rcases h.cases_head with rfl | ⟨p, hp, -⟩
  · exact ha
  · exact lt_size_of_parent? s n hp

lemma not_cyclic_of_free (hn : s.parent? n = none) : ¬ s.Cyclic n := by
  rintro ⟨p, hp, -⟩
  rw [hn] at hp
  simp at hp

lemma Climbs.total (ha : s.Climbs n a) (hb : s.Climbs n b) : s.Climbs a b ∨ s.Climbs b a := by
  refine Relation.ReflTransGen.total_of_right_unique ?_ ha hb
  intro x y z hy hz
  exact Option.some.inj (hy.symm.trans hz)

lemma Cyclic.climbs_back (hn : s.Cyclic n) (h : s.Climbs n a) : s.Climbs a n := by
  obtain ⟨p, hp, hback⟩ := hn
  induction h with
  | refl => exact .refl
  | @tail b d _ hd ih =>
    rcases ih.cases_head with rfl | ⟨e, he, hen⟩
    · obtain rfl := Option.some.inj (hp.symm.trans hd)
      exact hback
    · obtain rfl := Option.some.inj (he.symm.trans hd)
      exact hen

lemma Cyclic.climbs (hn : s.Cyclic n) (h : s.Climbs n a) : s.Cyclic a := by
  have hback := hn.climbs_back h
  rcases hback.cases_head with rfl | ⟨p, hp, hpn⟩
  · exact hn
  · exact ⟨p, hp, hpn.trans h⟩

lemma Cyclic.exists_child (hn : s.Cyclic n) : ∃ m, s.parent? m = some n ∧ s.Cyclic m := by
  obtain ⟨p, hp, hback⟩ := id hn
  rcases hback.cases_tail with rfl | ⟨m, hm, hmn⟩
  · exact ⟨n, hp, hn⟩
  · exact ⟨m, hmn, hn.climbs (.head hp hm)⟩

lemma ancestor?_add (i j : Nat) (n : NodeId) :
    s.ancestor? (i + j) n = (s.ancestor? i n).bind (s.ancestor? j) := by
  induction i generalizing n with
  | zero => simp [ancestor?]
  | succ i ih =>
    rw [Nat.succ_add, ancestor?, ancestor?, Option.bind_assoc]
    congr 1
    funext p
    exact ih p

lemma climbs_of_ancestor? {k : Nat} (h : s.ancestor? k n = some a) : s.Climbs n a := by
  induction k generalizing n with
  | zero =>
    obtain rfl := Option.some.inj h
    exact .refl
  | succ k ih =>
    obtain ⟨p, hp, h⟩ := Option.bind_eq_some_iff.mp h
    exact .head hp (ih h)

lemma ancestor?_succ (k : Nat) (n : NodeId) : s.ancestor? (k + 1) n = (s.ancestor? k n).bind s.parent? := by
  rw [ancestor?_add]
  congr 1
  funext a
  simp [ancestor?]

lemma exists_ancestor?_of_climbs (h : s.Climbs n a) : ∃ k, s.ancestor? k n = some a := by
  induction h with
  | refl => exact ⟨0, rfl⟩
  | @tail b d _ hd ih =>
    obtain ⟨k, hk⟩ := ih
    exact ⟨k + 1, by rw [ancestor?_succ, hk, Option.bind_some, hd]⟩

lemma ancestor?_mul {k : Nat} (h : s.ancestor? k n = some n) (j : Nat) : s.ancestor? (k * j) n = some n := by
  induction j with
  | zero => rfl
  | succ j ih => rw [Nat.mul_succ, ancestor?_add, ih, Option.bind_some, h]

lemma Cyclic.unique (ha : s.Cyclic a) (hb : s.Cyclic b) (hpa : s.parent? a = some p) (hpb : s.parent? b = some p) :
    a = b := by
  obtain ⟨i, hi⟩ := exists_ancestor?_of_climbs (ha.climbs_back (.of_parent? hpa))
  obtain ⟨j, hj⟩ := exists_ancestor?_of_climbs (hb.climbs_back (.of_parent? hpb))
  have hround {k : Nat} {x : NodeId} (hk : s.ancestor? k p = some x) (hx : s.parent? x = some p) :
      s.ancestor? (k + 1) p = some p := by rw [ancestor?_succ, hk, Option.bind_some, hx]
  -- going round often enough, both ways up from the parent have the same length
  have hlength : (i + 1) * j + i = (j + 1) * i + j := by
    rw [Nat.succ_mul, Nat.succ_mul, Nat.mul_comm j i]
    omega
  have hreach : s.ancestor? ((i + 1) * j + i) p = some a := by
    rw [ancestor?_add, ancestor?_mul (hround hi hpa), Option.bind_some, hi]
  rw [hlength, ancestor?_add, ancestor?_mul (hround hj hpb), Option.bind_some, hj] at hreach
  exact (Option.some.inj hreach).symm

lemma cyclic_of_ancestor?_self {k : Nat} (h : s.ancestor? (k + 1) n = some n) : s.Cyclic n := by
  obtain ⟨p, hp, h⟩ := Option.bind_eq_some_iff.mp h
  exact ⟨p, hp, climbs_of_ancestor? h⟩

lemma cyclic_of_ancestor? (h : s.ancestor? (s.size + 1) n = some a) : s.Cyclic a := by
  have hsome : ∀ i ≤ s.size, ∃ x, s.ancestor? i n = some x ∧ x < s.size := by
    intro i hi
    rw [show s.size + 1 = i + (s.size - i + 1) by omega, ancestor?_add] at h
    obtain ⟨x, hx, h⟩ := Option.bind_eq_some_iff.mp h
    obtain ⟨p, hp, -⟩ := Option.bind_eq_some_iff.mp h
    exact ⟨x, hx, lt_size_of_parent? s x hp⟩
  let place (i : Nat) : NodeId := (s.ancestor? i n).getD 0
  have hmaps : ∀ i ∈ Finset.range (s.size + 1), place i ∈ Finset.range s.size := by
    intro i hi
    obtain ⟨x, hx, hlt⟩ := hsome i (Nat.le_of_lt_succ (Finset.mem_range.mp hi))
    simpa [place, hx] using hlt
  obtain ⟨i, hi, j, hj, hne, heq⟩ :=
    Finset.exists_ne_map_eq_of_card_lt_of_maps_to (by simp) hmaps
  wlog hij : i < j generalizing i j
  · exact this j hj i hi (Ne.symm hne) heq.symm (by omega)
  have hj' : j ≤ s.size := Nat.le_of_lt_succ (Finset.mem_range.mp hj)
  obtain ⟨x, hx, -⟩ := hsome i (by omega)
  obtain ⟨y, hy, -⟩ := hsome j hj'
  obtain rfl : x = y := by simpa [place, hx, hy] using heq
  have hcycle : s.ancestor? (j - i - 1 + 1) x = some x := by
    rw [show j = i + (j - i - 1 + 1) by omega, ancestor?_add, hx] at hy
    exact hy
  rw [show s.size + 1 = i + (s.size + 1 - i) by omega, ancestor?_add, hx] at h
  exact (cyclic_of_ancestor?_self hcycle).climbs (climbs_of_ancestor? h)

lemma exists_root (h : ∀ a, s.Climbs n a → ¬ s.Cyclic a) :
    ∃ r, s.Climbs n r ∧ s.parent? r = none := by
  have hnone : s.ancestor? (s.size + 1) n = none := by
    cases ha : s.ancestor? (s.size + 1) n with
    | none => rfl
    | some a => exact (h a (climbs_of_ancestor? ha) (cyclic_of_ancestor? ha)).elim
  have hends : ∀ k n, s.ancestor? k n = none → ∃ r, s.Climbs n r ∧ s.parent? r = none := by
    intro k
    induction k with
    | zero => intro n hn; simp [ancestor?] at hn
    | succ k ih =>
      intro n hn
      cases hp : s.parent? n with
      | none => exact ⟨n, .refl, hp⟩
      | some p =>
        simp only [ancestor?, hp, Option.bind_some] at hn
        obtain ⟨r, hr, hroot⟩ := ih p hn
        exact ⟨r, .head hp hr, hroot⟩
  exact hends _ n hnone

end SlideDeck.Store
