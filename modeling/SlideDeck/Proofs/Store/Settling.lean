import Mathlib.Data.Finset.Card
import SlideDeck.Proofs.Sketch
import SlideDeck.Proofs.Store.Walk

/-! A walk below a node comes to the same for every depth beyond the number of nodes, also where it goes round a
cycle. A larger store with the same nodes below it is therefore walked alike. -/

namespace SlideDeck.Store

/-- What walks to growing depths come to: nothing for a while, and then one value for good. A step deeper
changes nothing at a node if it changes nothing at its children. -/
structure Settles {α : Type} (s : Store) (nothing : α) (walk : ℕ → NodeId → α) : Prop where
  zero (n : NodeId) : walk 0 n = nothing
  keeps (depth : ℕ) (n : NodeId) : walk depth n = nothing ∨ walk (depth + 1) n = walk depth n
  fromBelow (depth : ℕ) (n : NodeId) : (∀ c ∈ s.children n, walk (depth + 1) c = walk depth c) →
    walk (depth + 2) n = walk (depth + 1) n

namespace Settles

variable {α : Type} {s : Store} {nothing : α} {walk : ℕ → NodeId → α} {n : NodeId} {depth depth' : ℕ}

def Needs (nothing : α) (walk : ℕ → NodeId → α) (n : NodeId) (depth : ℕ) : Prop :=
  walk depth n = nothing ∧ walk (depth + 1) n ≠ nothing

section

variable (h : s.Settles nothing walk)

include h

lemma ne_of_le (hle : depth ≤ depth') (hne : walk depth n ≠ nothing) : walk depth' n ≠ nothing := by
  induction hle with
  | refl => exact hne
  | step _ ih => exact (h.keeps _ n).resolve_left ih ▸ ih

lemma needs_of_changes (hne : walk (depth + 1) n ≠ walk depth n) : Needs nothing walk n depth := by
  have hnothing := (h.keeps depth n).resolve_right hne
  exact ⟨hnothing, hnothing ▸ hne⟩

lemma unique (hneeds : Needs nothing walk n depth) (hneeds' : Needs nothing walk n depth') :
    depth = depth' := by
  rcases Nat.lt_trichotomy depth depth' with hlt | heq | hlt
  · exact absurd hneeds'.1 (h.ne_of_le hlt hneeds.2)
  · exact heq
  · exact absurd hneeds.1 (h.ne_of_le hlt hneeds'.2)

lemma exists_child (hneeds : Needs nothing walk n (depth + 1)) :
    ∃ c ∈ s.children n, Needs nothing walk c depth := by
  by_contra! hnone
  have hsame := h.fromBelow depth n fun c hc => by_contra fun hne => hnone c hc (h.needs_of_changes hne)
  exact hneeds.2 (hsame.trans hneeds.1)

lemma exists_needs (hneeds : Needs nothing walk n depth) (j : ℕ) (hj : j < depth) :
    ∃ m < s.size, Needs nothing walk m (j + 1) := by
  induction depth generalizing n with
  | zero => omega
  | succ depth ih =>
    obtain ⟨c, hc, hneeds'⟩ := h.exists_child hneeds
    rcases Nat.lt_succ_iff_lt_or_eq.mp hj with hlt | rfl
    · exact ih hneeds' hlt
    · exact ⟨n, lt_size_of_mem_children s n c hc, hneeds⟩

lemma le_size (hneeds : Needs nothing walk n depth) : depth ≤ s.size := by
  choose! node hlt hnode using h.exists_needs hneeds
  have hcard := Finset.card_le_card_of_injOn (s := Finset.range depth) (t := Finset.range s.size) node
    (fun j hj => Finset.mem_coe.mpr (Finset.mem_range.mpr (hlt j (Finset.mem_range.mp hj))))
    fun i hi j hj heq => ?_
  · simpa using hcard
  · have hi := hnode i (Finset.mem_range.mp hi)
    rw [heq] at hi
    exact Nat.succ.inj (h.unique hi (hnode j (Finset.mem_range.mp hj)))

theorem eq_of_size_lt (hlt : s.size < depth) (n : NodeId) : walk depth n = walk (s.size + 1) n := by
  induction depth, hlt using Nat.le_induction with
  | base => rfl
  | succ depth hle ih =>
    rw [← ih]
    by_contra hne
    exact absurd (h.le_size (h.needs_of_changes hne)) (Nat.not_le_of_lt hle)

lemma eq_of_ne_nothing (hne : walk depth n ≠ nothing) : walk depth n = walk (s.size + 1) n := by
  have hstays (k : ℕ) : walk (depth + k) n = walk depth n := by
    induction k with
    | zero => rfl
    | succ k ih => exact ((h.keeps (depth + k) n).resolve_left (ih ▸ hne)).trans ih
  rw [← hstays (s.size + 1), h.eq_of_size_lt (by omega)]

end

end Settles

section

variable {α β : Type} {l : List α}

lemma anyM_congr {p q : α → Option Bool} (h : ∀ a ∈ l, q a = p a) : l.anyM q = l.anyM p := by
  induction l with
  | nil => rfl
  | cons a l ih =>
    obtain ⟨ha, hrest⟩ := List.forall_mem_cons.mp h
    rw [List.anyM_cons, List.anyM_cons, ha, ih hrest]

lemma anyM_keeps {p q : α → Option Bool} (h : ∀ a ∈ l, p a = none ∨ q a = p a) :
    l.anyM p = none ∨ l.anyM q = l.anyM p := by
  induction l with
  | nil => exact .inr rfl
  | cons a l ih =>
    obtain ⟨ha, hrest⟩ := List.forall_mem_cons.mp h
    rw [List.anyM_cons, List.anyM_cons]
    rcases ha with ha | ha
    · simp [ha]
    · rw [ha]
      rcases p a with _ | _ | _
      · exact .inl rfl
      · exact ih hrest
      · exact .inr rfl

lemma mapM_congr {f g : α → Option β} (h : ∀ a ∈ l, g a = f a) : l.mapM g = l.mapM f := by
  induction l with
  | nil => rfl
  | cons a l ih =>
    obtain ⟨ha, hrest⟩ := List.forall_mem_cons.mp h
    rw [List.mapM_cons, List.mapM_cons, ha, ih hrest]

lemma mapM_keeps {f g : α → Option β} (h : ∀ a ∈ l, f a = none ∨ g a = f a) :
    l.mapM f = none ∨ l.mapM g = l.mapM f := by
  by_cases hnone : ∃ a ∈ l, f a = none
  · exact .inl (mapM_eq_none.mpr hnone)
  · push Not at hnone
    exact .inr (mapM_congr fun a ha => (h a ha).resolve_left (hnone a ha))

lemma gather_congr {l : List NodeId} {f g : NodeId → Except Obstacle (Option (List Piece))} (h : ∀ c ∈ l, g c = f c) :
    Layout.gather g l = Layout.gather f l := by
  induction l with
  | nil => rfl
  | cons c l ih =>
    obtain ⟨hc, hrest⟩ := List.forall_mem_cons.mp h
    rw [Layout.gather, Layout.gather, hc, ih hrest]

lemma gather_keeps {l : List NodeId} {f g : NodeId → Except Obstacle (Option (List Piece))} {cause : Obstacle}
    (h : ∀ c ∈ l, f c = .error cause ∨ g c = f c) :
    Layout.gather f l = .error cause ∨ Layout.gather g l = Layout.gather f l := by
  induction l with
  | nil => exact .inr rfl
  | cons c l ih =>
    obtain ⟨hc, hrest⟩ := List.forall_mem_cons.mp h
    rw [Layout.gather, Layout.gather]
    rcases hc with hc | hc
    · exact .inl (by rw [hc]; rfl)
    · rw [hc]
      cases f c with
      | error => exact .inr rfl
      | ok pieces? =>
        rcases ih hrest with hrest | hrest
        · exact .inl (by rw [hrest]; rfl)
        · exact .inr (by rw [hrest])

end

variable (s : Store)

lemma settles_hasWithin (kind : Kind) : s.Settles none (s.hasWithin kind) where
  zero _ := rfl
  keeps depth n := by
    induction depth generalizing n with
    | zero => exact .inl rfl
    | succ depth ih =>
      refine anyM_keeps fun c _ => ?_
      split
      · exact .inr rfl
      · exact ih c
  fromBelow depth n h := anyM_congr fun c hc => by rw [h c hc]

lemma settles_treeWithin : s.Settles none s.treeWithin where
  zero _ := rfl
  keeps depth n := by
    induction depth generalizing n with
    | zero => exact .inl rfl
    | succ depth ih =>
      rw [treeWithin, treeWithin]
      rcases mapM_keeps fun c (_ : c ∈ s.children n) => ih c with hnone | hsame
      · exact .inl (by rw [hnone]; rfl)
      · exact .inr (by rw [hsame])
  fromBelow depth n h := by
    rw [treeWithin, mapM_congr h]
    rfl

lemma sketchAround_keeps (hasStep : Bool) (n : NodeId) (cause : Obstacle) :
    s.sketchAround hasStep n (.error cause) = .error cause ∨
      ∀ below, s.sketchAround hasStep n below = s.sketchAround hasStep n (.error cause) := by
  simp only [sketchAround]
  cases s.codeBelow n with
  | error => exact .inr fun _ => rfl
  | ok holdsCode =>
    simp only [Except.bind]
    cases (s.node n).halt? hasStep with
    | some => exact .inr fun _ => rfl
    | none =>
      cases (s.node n).kind.isContainer with
      | true => exact .inl rfl
      | false => exact .inr fun _ => rfl

lemma settles_sketch (hasStep : Bool) : s.Settles (.error .unending) (s.sketch hasStep) where
  zero _ := rfl
  keeps depth n := by
    induction depth generalizing n with
    | zero => exact .inl rfl
    | succ depth ih =>
      rw [sketch, sketch]
      rcases gather_keeps fun c (_ : c ∈ s.children n) => ih c with hnothing | hsame
      · rw [hnothing]
        exact (s.sketchAround_keeps hasStep n .unending).imp_right fun h => h _
      · exact .inr (by rw [hsame])
  fromBelow depth n h := by
    rw [sketch, gather_congr h]
    rfl

variable {s} {depth : ℕ} (hlt : s.size < depth) (n : NodeId)

include hlt

lemma hasWithin_eq_has? (kind : Kind) : s.hasWithin kind depth n = s.has? kind n :=
  (s.settles_hasWithin kind).eq_of_size_lt hlt n

lemma treeWithin_eq_tree? : s.treeWithin depth n = s.tree? n := s.settles_treeWithin.eq_of_size_lt hlt n

lemma sketch_eq (hasStep : Bool) : s.sketch hasStep depth n = s.sketch hasStep (s.size + 1) n :=
  (s.settles_sketch hasStep).eq_of_size_lt hlt n

end SlideDeck.Store
