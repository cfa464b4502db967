import Mathlib.Data.Finset.Card
import Mathlib.Data.Option.Basic

/-! Results that agree, and arrays whose items stand in another array at other places. -/

namespace SlideDeck

variable {α β γ δ ε : Type}

/-- Two computations fail alike, or both have a result and the results are related. -/
inductive Agree (r : α → β → Prop) : Except ε α → Except ε β → Prop
  | ok {a : α} {b : β} (h : r a b) : Agree r (.ok a) (.ok b)
  | error (e : ε) : Agree r (.error e) (.error e)

namespace Agree

variable {r : α → β → Prop} {q : γ → δ → Prop} {x : Except ε α} {y : Except ε β}

lemma bind {f : α → Except ε γ} {g : β → Except ε δ} (h : Agree r x y)
    (hrest : ∀ a b, x = .ok a → r a b → Agree q (f a) (g b)) : Agree q (x >>= f) (y >>= g) := by
  cases h with
  | ok h => exact hrest _ _ rfl h
  | error e => exact .error e

lemma mono {q : α → β → Prop} (h : Agree r x y) (hq : ∀ a b, x = .ok a → r a b → q a b) : Agree q x y := by
  cases h with
  | ok h => exact .ok (hq _ _ rfl h)
  | error e => exact .error e

lemma of_map (x : Except ε α) (f : α → β) : Agree (fun a b => b = f a) x (x.map f) := by
  cases x with
  | ok a => exact .ok rfl
  | error e => exact .error e

lemma bind_map {f : α → β} {g : α → Except ε γ} {k : β → Except ε δ} (h : y = x.map f)
    (hrest : ∀ a, x = .ok a → Agree q (g a) (k (f a))) : Agree q (x >>= g) (y >>= k) := by
  subst h
  refine (of_map x f).bind fun a b ha hb => ?_
  subst hb
  exact hrest a ha

lemma eq_of_error (h : Agree r (.error e) y) : y = .error e := by
  cases h
  rfl

lemma exists_of_ok {a : α} (h : Agree r x y) (hx : x = .ok a) : ∃ b, y = .ok b ∧ r a b := by
  subst hx
  cases h with
  | ok h => exact ⟨_, rfl, h⟩

end Agree

/-- The items of an array stand in another one at other places. What is beyond the end of the one is as far beyond
the end of the other. -/
structure Spread (f : ℕ ↪ ℕ) (r : ℕ → α → β → Prop) (xs : Array α) (ys : Array β) : Prop where
  beyond (k : ℕ) : f (xs.size + k) = ys.size + k
  items (i : ℕ) : Option.Rel (r i) xs[i]? ys[f i]?

def moveUp (first distance : ℕ) : ℕ ↪ ℕ where
  toFun i := if i < first then i else i + distance
  inj' i j h := by grind

lemma moveUp_of_lt {first distance i : ℕ} (h : i < first) : moveUp first distance i = i := if_pos h

lemma moveUp_of_le {first distance i : ℕ} (h : first ≤ i) : moveUp first distance i = i + distance :=
  if_neg (Nat.not_lt_of_le h)

namespace Spread

variable {f : ℕ ↪ ℕ} {r : ℕ → α → β → Prop} {xs : Array α} {ys : Array β}

lemma refl {r : ℕ → α → α → Prop} (h : ∀ i x, r i x x) (xs : Array α) : Spread (.refl ℕ) r xs xs where
  beyond _ := rfl
  items i := by
    cases hx : xs[i]? with
    | none => simp [hx]
    | some x => simp [hx, h]

lemma of_start {r : ℕ → α → α → Prop} {xs ys : Array α} (hle : xs.size ≤ ys.size)
    (hsame : ∀ i < xs.size, ys[i]? = xs[i]?) (hr : ∀ i x, xs[i]? = some x → r i x x) :
    Spread (moveUp xs.size (ys.size - xs.size)) r xs ys where
  beyond k := by
    rw [moveUp_of_le (Nat.le_add_right _ k)]
    omega
  items i := by
    by_cases hi : i < xs.size
    · rw [moveUp_of_lt hi, hsame i hi]
      cases hx : xs[i]? with
      | none => exact .none
      | some x => exact .some (hr i x hx)
    · have hi := Nat.le_of_not_lt hi
      rw [moveUp_of_le hi, Array.getElem?_eq_none hi, Array.getElem?_eq_none (by omega)]
      exact .none

lemma eq {r : ℕ → α → α → Prop} {xs ys : Array α} (h : Spread (.refl ℕ) r xs ys)
    (hr : ∀ i x y, r i x y → y = x) : ys = xs := by
  refine Array.ext_getElem? fun i => ?_
  have hitem := h.items i
  simp only [Function.Embedding.refl_apply] at hitem
  generalize xs[i]? = x?, ys[i]? = y? at hitem
  cases hitem with
  | none => rfl
  | some hitem => rw [hr i _ _ hitem]

variable (h : Spread f r xs ys)

include h

lemma lt_size_iff {i : ℕ} : f i < ys.size ↔ i < xs.size := by
  constructor
  · intro hi
    by_contra hle
    have hbeyond := h.beyond (i - xs.size)
    rw [Nat.add_sub_cancel' (Nat.le_of_not_lt hle)] at hbeyond
    omega
  · intro hi
    by_contra hle
    have hbeyond := h.beyond (f i - ys.size)
    rw [Nat.add_sub_cancel' (Nat.le_of_not_lt hle)] at hbeyond
    have := f.injective hbeyond
    omega

lemma size_le : xs.size ≤ ys.size := by
  have hcard := Finset.card_le_card_of_injOn (s := Finset.range xs.size) (t := Finset.range ys.size) f
    (fun i hi => by simpa [h.lt_size_iff] using hi) f.injective.injOn
  simpa using hcard

lemma eq_size_iff {i : ℕ} : f i = ys.size ↔ i = xs.size := by
  have hsize : f xs.size = ys.size := h.beyond 0
  rw [← hsize, f.apply_eq_iff_eq]

lemma push {x : α} {y : β} (hxy : r xs.size x y) : Spread f r (xs.push x) (ys.push y) where
  beyond k := by
    simp only [Array.size_push, Nat.add_assoc]
    exact h.beyond (1 + k)
  items i := by
    rw [Array.getElem?_push, Array.getElem?_push]
    by_cases hi : i = xs.size
    · subst hi
      rw [if_pos rfl, if_pos (h.eq_size_iff.mpr rfl)]
      exact .some hxy
    · rw [if_neg hi, if_neg (h.eq_size_iff.not.mpr hi)]
      exact h.items i

lemma modify {i : ℕ} {g : α → α} {k : β → β} (hxy : ∀ x y, r i x y → r i (g x) (k y)) :
    Spread f r (xs.modify i g) (ys.modify (f i) k) where
  beyond j := by
    simp only [Array.size_modify]
    exact h.beyond j
  items j := by
    rw [Array.getElem?_modify, Array.getElem?_modify]
    by_cases hj : i = j
    · subst hj
      rw [if_pos rfl, if_pos rfl]
      have hitem := h.items i
      generalize xs[i]? = x?, ys[f i]? = y? at hitem
      cases hitem with
      | none => exact .none
      | some hitem => exact .some (hxy _ _ hitem)
    · rw [if_neg hj, if_neg (f.injective.ne hj)]
      exact h.items j

lemma setIfInBounds {i : ℕ} {x : α} {y : β} (hxy : r i x y) :
    Spread f r (xs.setIfInBounds i x) (ys.setIfInBounds (f i) y) where
  beyond k := by
    simp only [Array.size_setIfInBounds]
    exact h.beyond k
  items j := by
    rw [Array.getElem?_setIfInBounds, Array.getElem?_setIfInBounds]
    by_cases hj : i = j
    · subst hj
      rw [if_pos rfl, if_pos rfl]
      by_cases hi : i < xs.size
      · rw [if_pos hi, if_pos (h.lt_size_iff.mpr hi)]
        exact .some hxy
      · rw [if_neg hi, if_neg (h.lt_size_iff.not.mpr hi)]
        exact .none
    · rw [if_neg hj, if_neg (f.injective.ne hj)]
      exact h.items j

end Spread

end SlideDeck
