import SlideDeck.Proofs.Script.Tandem

/-! Two sessions with the same objects at the same places, which may be apart in the log, in what some names stand
for, and in fields that are not read. -/

namespace SlideDeck

def Relocation.same : Relocation := ⟨.refl _, .refl _, .refl _⟩

@[simp] lemma ArgumentsRef.relocate_same (a : ArgumentsRef) : a.relocate .same = a := by cases a <;> rfl

lemma Store.Embeds.eq {s t : Store} (h : s.Embeds (.refl _) t) : t = s := by
  obtain ⟨xs⟩ := s
  obtain ⟨ys⟩ := t
  exact congrArg Store.mk (Spread.eq h fun _ x _ hxy => hxy.trans x.rename_id)

namespace Script

@[simp] lemma Object.relocate_same (o : Object) : o.relocate .same = o := by
  cases o <;> simp [relocate] <;> rfl

@[simp] lemma Entity.relocate_same (e : Entity) : e.relocate .same = e := by
  cases e with
  | nodes form members => exact congrArg (nodes form) (List.map_id members)
  | _ => simp [relocate]

section

variable {T : Tie} (hT : T.toRelocation = .same)

include hT

lemma Tie.mark_same (m : (Object × String) × Atom) : T.mark m = m := by
  rw [Tie.mark, hT, Object.relocate_same]

namespace Session.Tied

variable {s t : Session}

lemma of_logger {l : Log.Logger} (hl : T.loggers s.logger l) : s.Tied T { s with logger := l } where
  store := by
    rw [hT]
    exact .refl s.store
  arguments := rfl
  settings := by
    rw [hT]
    exact .refl (fun i x => ⟨.refl x, .inl rfl⟩) s.workspace.settings
  decks := by
    rw [hT]
    exact .refl (fun i d => ⟨by rw [hT]; rfl, .inl rfl⟩) s.workspace.decks
  names := List.forall₂_same.mpr fun entry _ => ⟨rfl, .inl (by rw [hT, Entity.relocate_same])⟩
  marks := ((List.map_congr_left fun m _ => Tie.mark_same hT m).trans (List.map_id _)).symm
  logger := hl

variable (h : s.Tied T t)

include h

lemma store_eq : t.store = s.store := by
  have hstore := h.store
  rw [hT] at hstore
  exact hstore.eq

lemma marks_eq : t.marks = s.marks := by
  rw [h.marks, List.map_congr_left fun m _ => Tie.mark_same hT m]
  exact List.map_id _

lemma workspace_eq (hparted : ∀ i, ¬ T.parted i) (hretitled : ∀ i, ¬ T.retitled i) : t.workspace = s.workspace := by
  have hsettings := h.settings
  have hdecks := h.decks
  rw [hT] at hsettings hdecks
  have hsettings : t.workspace.settings = s.workspace.settings :=
    hsettings.eq fun i x y hxy => hxy.2.resolve_right (hparted i)
  have hdecks : t.workspace.decks = s.workspace.decks := by
    refine hdecks.eq fun i d e hde => ?_
    rw [hde.1, hde.2.resolve_right (hretitled i), hT]
    rfl
  have hstore : t.workspace.store = s.workspace.store := h.store_eq hT
  have harguments := h.arguments
  generalize t.workspace = w, s.workspace = w' at *
  cases w
  cases w'
  simp_all

end Session.Tied

end

end Script

end SlideDeck
