import SlideDeck.Proofs.Script.Ownership
import SlideDeck.Proofs.Store.Cycles

/-! Cycles along scripts: only an attachment of a container to itself or below itself closes one, and nothing
opens it again. -/

namespace SlideDeck.Script

abbrev Point.store (p : Point) : Store := p.session.store

def SafeMove (p q : Point) : Prop :=
  ∃ a?, Move p a? q ∧ ∀ a ∈ a?, ¬ p.store.Climbs a.container a.node

lemma Attachment.Fits.cyclic_iff {a : Attachment} {s : Store} (h : a.Fits s) (m : NodeId) :
    (a.apply s).Cyclic m ↔ s.Cyclic m ∨ s.Climbs a.container m ∧ s.Climbs m a.node :=
  Store.cyclic_link a.place h.lt_size h.free

lemma Move.cyclic_iff {p q : Point} {a? : Option Attachment} (hp : p.WellFormed)
    (h : Move p a? q) (m : NodeId) : q.store.Cyclic m ↔ p.store.Cyclic m ∨
      ∃ a ∈ a?, p.store.Climbs a.container m ∧ p.store.Climbs m a.node := by
  have hshift := h.shift hp
  cases a? with
  | none => simpa using Store.Edits.cyclic_iff hp.session.store hshift
  | some a =>
    obtain ⟨hfits, heq⟩ := hshift
    simpa [Point.store, heq] using hfits.cyclic_iff m

lemma SafeMove.cyclic_iff {p q : Point} (hp : p.WellFormed) (h : SafeMove p q) (m : NodeId) :
    q.store.Cyclic m ↔ p.store.Cyclic m := by
  obtain ⟨a?, hmove, hsafe⟩ := h
  rw [hmove.cyclic_iff hp]
  refine or_iff_left ?_
  rintro ⟨a, ha, hcm, hmn⟩
  exact hsafe a ha (hcm.trans hmn)

lemma Moves.cyclic {p q : Point} (hp : p.WellFormed) (h : Moves p q) {m : NodeId}
    (hm : p.store.Cyclic m) : q.store.Cyclic m := by
  induction h with
  | refl => exact hm
  | tail hmoves hmove ih =>
    obtain ⟨a?, hmove⟩ := hmove
    exact (hmove.cyclic_iff (Moves.wellFormed hp hmoves) m).mpr (.inl ih)

lemma safe_moves {p q : Point} (h : Relation.ReflTransGen SafeMove p q) : Moves p q :=
  Relation.ReflTransGen.mono (fun _ _ ⟨a?, hmove, _⟩ => ⟨a?, hmove⟩) _ _ h

lemma not_cyclic_of_safe {p : Point} (h : Relation.ReflTransGen SafeMove ⟨{}, []⟩ p) (m : NodeId) :
    ¬ p.store.Cyclic m := by
  induction h with
  | refl =>
    exact Store.not_cyclic_of_free (by simp [Point.store, Session.store, Store.parent?, Store.node])
  | tail hmoves hmove ih =>
    rw [hmove.cyclic_iff (Point.Reached.wellFormed (safe_moves hmoves))]
    exact ih

/-- A move changes the set of cyclic nodes only if it attaches a node to a container below it or to itself. It
then adds the way from the container up to the node. So a run without such moves keeps a forest, and a cycle
stays. -/
theorem cycles_from_attachments :
    (∀ (p q : Point) (a? : Option Attachment), p.Reached → Move p a? q →
      ((∀ a ∈ a?, ¬ p.store.Climbs a.container a.node) →
        ∀ m, q.store.Cyclic m ↔ p.store.Cyclic m) ∧
      ∀ a ∈ a?, p.store.Climbs a.container a.node →
        ∀ m, q.store.Cyclic m ↔
          p.store.Cyclic m ∨ p.store.Climbs a.container m ∧ p.store.Climbs m a.node) ∧
    (∀ p : Point, Relation.ReflTransGen SafeMove ⟨{}, []⟩ p → p.store.IsForest) ∧
    ∀ p q : Point, p.Reached → Moves p q → ∀ m, p.store.Cyclic m → q.store.Cyclic m := by
  refine ⟨fun p q a? hp hmove => ⟨fun hsafe m => ?_, fun a ha _ m => ?_⟩, fun p hp => ?_,
    fun p q hp hmoves m hm => hmoves.cyclic hp.wellFormed hm⟩
  · exact SafeMove.cyclic_iff hp.wellFormed ⟨a?, hmove, hsafe⟩ m
  · obtain rfl := Option.mem_def.mp ha
    simpa using hmove.cyclic_iff hp.wellFormed m
  · have hwell : p.WellFormed := Point.Reached.wellFormed (safe_moves hp)
    exact hwell.session.store.isForest (not_cyclic_of_safe hp)

theorem cycles_from_attachments_of_frames :
    let script : List Step := [.act (.make (.frame none)) (some "f"),
      .act (.make (.frame none)) (some "g"), .build (.adopt "f" "g" .last) none]
    let s := (runAll script {}).1
    let x : Pending := { subject := .node 0, target? := some (1, .last) }
    let more (s : Session) := (s.answer none (Action.run s (.make .header))).1
    ∃ pending t, Point.Reached ⟨s, x :: pending⟩ ∧
      Move ⟨s, x :: pending⟩ (some ⟨1, 0, .last⟩) ⟨t, pending⟩ ∧ s.store.Climbs 1 0 ∧
      (∀ m, t.store.Cyclic m ↔ s.store.Cyclic m ∨ s.store.Climbs 1 m ∧ s.store.Climbs m 0) ∧
      t.store.Cyclic 0 ∧ Moves ⟨t, pending⟩ ⟨more t, pending⟩ ∧ (more t).store.Cyclic 0 ∧
      SafeMove ⟨{}, []⟩ ⟨more {}, []⟩ ∧ (more {}).store.IsForest := by
  intro script s x more
  obtain ⟨pending, hs⟩ : s.Reachable := reachable_runAll script
  have hstart : Move ⟨s, pending⟩ none ⟨s, x :: pending⟩ :=
    .start pending (.adopt "g" "f" .last) none rfl
  have hp : Point.Reached ⟨s, x :: pending⟩ := hs.trans hstart.moves
  have hmove : Move ⟨s, x :: pending⟩ (some ⟨1, 0, .last⟩)
      ⟨s.withStore (s.store.link 1 0 .last), pending⟩ := .complete pending none rfl
  have hclimbs : s.store.Climbs 1 0 := .of_parent? (by decide)
  have hadded := (cycles_from_attachments.1 _ _ _ hp hmove).2 _ rfl hclimbs
  have hcyclic := (hadded 0).mpr (.inr ⟨hclimbs, .refl⟩)
  have hmore := (Move.act (s.withStore (s.store.link 1 0 .last)) pending (.make .header) none).moves
  have hsafe : SafeMove ⟨{}, []⟩ ⟨more {}, []⟩ := ⟨none, .act {} [] (.make .header) none, by simp⟩
  exact ⟨pending, _, hp, hmove, hclimbs, hadded, hcyclic, hmore,
    cycles_from_attachments.2.2 _ _ (hp.trans hmove.moves) hmore 0 hcyclic, hsafe,
    cycles_from_attachments.2.1 _ (.single hsafe)⟩

end SlideDeck.Script
