import SlideDeck.Proofs.Script.DeckPlanting
import SlideDeck.Proofs.Store.Frame

/-! Which nodes an operation on a store changes in place. The others stay as they were, except that one of them
may get a parent. -/

namespace SlideDeck

namespace Store

structure Spares (s t : Store) (touched : List NodeId) : Prop where
  size_le : s.size ≤ t.size
  node (m : NodeId) : m < s.size → m ∉ touched → (t.node m).detached = (s.node m).detached

def MayTouch (s : Store) (touched : List NodeId) (n : NodeId) : Prop := n ∈ touched ∨ s.size ≤ n

namespace Spares

variable {s t u : Store} {touched : List NodeId}

lemma refl (s : Store) (touched : List NodeId) : s.Spares s touched := ⟨Nat.le_refl _, fun _ _ _ => rfl⟩

section

variable (h : s.Spares t touched)

include h

lemma then_at {n : NodeId} (hn : s.MayTouch touched n) (hle : t.size ≤ u.size)
    (hnode : ∀ m < t.size, m ≠ n → (u.node m).detached = (t.node m).detached) : s.Spares u touched where
  size_le := h.size_le.trans hle
  node m hlt hm := by
    have hne : m ≠ n := by
      rintro rfl
      exact hn.elim hm (Nat.not_le_of_lt hlt)
    rw [hnode m (hlt.trans_le h.size_le) hne, h.node m hlt hm]

lemma modify {n : NodeId} (hn : s.MayTouch touched n) (f : Node → Node) : s.Spares (t.modify n f) touched :=
  h.then_at hn (size_modify t n f).ge fun m _ hne => by
    rw [node_modify, if_neg fun heq => hne heq.1.symm]

lemma link {c : NodeId} (hc : s.MayTouch touched c) (n : NodeId) (place : Place) :
    s.Spares (t.link c n place) touched :=
  h.then_at hc (size_link t n c place).ge fun m _ hne => by
    have hother : ¬ (c = m ∧ m < t.size) := fun heq => hne heq.1.symm
    rw [node_link, if_neg hother]
    rfl

lemma create (draft : Draft) : s.Spares (t.create draft).1 touched :=
  h.then_at (.inr h.size_le) (size_lt_size_create t draft).le fun m hlt _ => by
    rw [node_create_of_lt t draft hlt]

lemma plant {p : Planting} (hp : s.MayTouch touched p.container) : s.Spares (t.plant p) touched := by
  rw [Store.plant, createIn_fst]
  exact (h.create p.draft).link hp _ p.place

lemma plantAll {ps : List Planting} (hps : ∀ p ∈ ps, s.MayTouch touched p.container) :
    s.Spares (t.plantAll ps) touched := by
  induction ps generalizing t with
  | nil => exact h
  | cons p ps ih =>
    obtain ⟨hp, hps⟩ := List.forall_mem_cons.mp hps
    exact ih (h.plant hp) hps

lemma createAllIn {c : NodeId} (hc : s.MayTouch touched c) (drafts : List Draft) :
    s.Spares (t.createAllIn c drafts) touched := by
  rw [createAllIn_eq_plantAll]
  refine h.plantAll fun p hp => ?_
  obtain ⟨draft, -, rfl⟩ := List.mem_map.mp hp
  exact hc

end

end Spares

end Store

namespace Deck

open Store (MayTouch Spares)

variable {s t : Store} {touched : List NodeId}

lemma spares_addOutline (h : s.Spares t touched) {preamble : NodeId} (hp : s.MayTouch touched preamble)
    (title : String) : s.Spares (addOutline t preamble title) touched := by
  rw [addOutline_eq]
  refine h.plantAll ?_
  simp only [outlinePlantings, List.forall_mem_cons]
  exact ⟨hp, .inr h.size_le, .inr (h.size_le.trans (Nat.le_succ _)), nofun⟩

lemma spares_buildPreamble (h : s.Spares t touched) (plan : Preamble) (outlineTitle? : Option String) :
    s.Spares (buildPreamble t plan outlineTitle?).1 touched := by
  have hnew : s.MayTouch touched t.size := .inr h.size_le
  have hheaded := h.create .header
  have hlined := hheaded.plant (p := ⟨t.size, .command "documentclass" plan.classArguments, .last⟩) hnew
  have hmarked := hlined.modify (.inr hheaded.size_le) fun node => { node with foreign? := plan.foreign? }
  have hfilled := hmarked.createAllIn hnew (preambleDrafts plan.packages)
  rw [buildPreamble]
  simp only [Store.create_snd, Store.createIn_snd]
  cases outlineTitle? with
  | none => exact hfilled
  | some title => exact spares_addOutline hfilled hnew title

lemma spares_build {settings : LooseSettings} {place : Nat} {outlineTitle? : Option String} {d : Deck}
    (h : build s settings place outlineTitle? = .ok (t, d)) (touched : List NodeId) : s.Spares t touched := by
  obtain ⟨plan, -, rfl, -⟩ := exists_of_build h
  exact (spares_buildPreamble ((Spares.refl s touched).create _) plan outlineTitle?).create _

lemma spares_setTitle (d : Deck) (s : Store) (title author : String) (date? subtitle? : Option String) :
    s.Spares (d.setTitle s title author date? subtitle?) [d.header, d.document] := by
  rw [setTitle_eq]
  refine (Spares.refl s _).plantAll fun p hp => ?_
  rcases container_of_titlePlantings d s.size title author date? subtitle? p hp with heq | heq | hle
  · exact .inl (by simp [heq])
  · exact .inl (by simp [heq])
  · exact .inr hle

end Deck

end SlideDeck
