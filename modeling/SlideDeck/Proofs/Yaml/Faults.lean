import Mathlib
import SlideDeck.Yaml.Fault

/-! The faults that a computation can end in. What is proved of a computation with a state holds of its run
from any state it allows, and what is proved of a step holds of the steps along a list. -/

namespace SlideDeck.Yaml

open Std.Do

set_option mvcgen.warning false

@[spec]
lemma error_spec {α : Type} {fault : Fault} {Q : PostCond α (.except Fault .pure)} :
    ⦃Q.2.1 fault⦄ (Except.error fault : Except Fault α) ⦃Q⦄ := fun h => h

@[spec]
lemma ok_spec {α : Type} {a : α} {Q : PostCond α (.except Fault .pure)} :
    ⦃Q.1 a⦄ (Except.ok a : Except Fault α) ⦃Q⦄ := fun h => h

lemma run_spec {σ α : Type} {p : σ → Prop} {E : Fault → Prop} {x : StateT σ (Except Fault) α} {s : σ}
    (h : ⦃fun s => ⌜p s⌝⦄ x ⦃post⟨fun _ s => ⌜p s⌝, fun fault => ⌜E fault⌝⟩⦄) :
    ⦃⌜p s⌝⦄ x.run s ⦃post⟨fun out => ⌜p out.2⌝, fun fault => ⌜E fault⌝⟩⦄ := h s

lemma error_of_spec {α : Type} {p : Prop} {q : α → Prop} {E : Fault → Prop} {x : Except Fault α} {fault : Fault}
    (h : ⦃⌜p⌝⦄ x ⦃post⟨fun a => ⌜q a⌝, fun fault => ⌜E fault⌝⟩⦄) (hp : p) (hx : x = .error fault) :
    E fault := by
  subst hx
  exact h hp

section Lists

variable {m : Type → Type} {ps : PostShape} [Monad m] [WPMonad m ps] {α β σ : Type}
  {P : Assertion ps} {E : ExceptConds ps}

lemma mapM_spec {f : α → m β} (l : List α) (h : ∀ a, ⦃P⦄ f a ⦃(fun _ => P, E)⦄) :
    ⦃P⦄ l.mapM f ⦃(fun _ => P, E)⦄ := by
  induction l with
  | nil => exact Triple.pure _ .rfl
  | cons a rest ih =>
    rw [List.mapM_cons]
    exact Triple.bind _ _ (h a) fun b => Triple.bind _ _ ih fun bs => Triple.pure _ .rfl

lemma forM_spec {f : α → m PUnit} (l : List α) (h : ∀ a, ⦃P⦄ f a ⦃(fun _ => P, E)⦄) :
    ⦃P⦄ l.forM f ⦃(fun _ => P, E)⦄ := by
  induction l with
  | nil => exact Triple.pure _ .rfl
  | cons a rest ih => exact Triple.bind _ _ (h a) fun _ => ih

lemma foldlM_spec {Q : PostCond σ ps} {f : σ → α → m σ} (l : List α) (h : ∀ a s, ⦃Q.1 s⦄ f s a ⦃Q⦄) {s : σ}
    (hstart : P ⊢ₛ Q.1 s) : ⦃P⦄ l.foldlM f s ⦃Q⦄ :=
  hstart.trans (Spec.foldlM_list_const_inv h)

end Lists

end SlideDeck.Yaml
