import SlideDeck.Proofs.Script.Construction
import SlideDeck.Proofs.Script.Rendering
import SlideDeck.Proofs.Store.Graft

/-! What an attachment changes in the text of a node above the container: the text of the attached node is put
in at one place, and code makes the frames around it fragile. -/

namespace SlideDeck.Script

/-- The writing of a node ends, but in the fault of something at or below it that has a wrong type. -/
def Sight.FailsOn (x : Sight) (s : Store) (n : NodeId) : Prop :=
  ∃ cause, x.outcome = .error (.ofObstacle cause) ∧ cause ≠ .unending ∧ s.Obstructs n cause

section Written

variable {s : Session} {n : NodeId} {t : Tree}

lemma Session.write_tree (hs : s.store.WellFormed) (ht : s.store.tree? n = some t)
    (htexts : ¬ s.store.HoldsForeign n) (step : String) :
    (s.write (.node n) step).outcome = .ok (.value (.text (t.render step))) := by
  rw [write_node, Sight.ofRendering, Store.rendering_text hs ht htexts]
  rfl

lemma Session.write_foreign (hs : s.store.WellFormed) (ht : s.store.tree? n = some t)
    (hforeign : s.store.HoldsForeign n) (step : String) : (s.write (.node n) step).FailsOn s.store n := by
  rw [write_node]
  rcases Sight.ofRendering_cases (r := s.store.rendering (some step) n) with hshows | ⟨cause, hcause, hfault⟩
  · exact absurd hforeign ((Store.rendering_ok_iff hs step).mp (Sight.showsText_ofRendering.mp hshows)).2
  · have hacyclic : ¬ s.store.Cyclic n := by
      rw [← Store.tree?_eq_none_iff hs, ht]
      exact nofun
    have hobstructs := Store.obstructs_of_rendering hs hcause (.inl rfl)
    refine ⟨cause, hfault, ?_, hobstructs⟩
    rintro rfl
    cases hobstructs with
    | unending hcyclic => exact hacyclic hcyclic

end Written

section Attach

variable {s : Session} {c n r : NodeId} (place : Place)

lemma Pending.finish_of_free (hfree : s.store.parent? n = none) :
    Pending.finish { subject := .node n, target? := some (c, place) } s =
      .ok (s.withStore (s.store.link c n place)) := by
  rw [Pending.finish_node, Session.checkFree_of_free hfree]
  rfl

lemma adopt_run (hc : s.store.Container c) (hfree : s.store.parent? n = none) {on node : String}
    (hon : s.lookup on = .ok (.node c)) (hnode : s.lookup node = .ok (.node n)) :
    (Construction.adopt on node place).run s =
      { session := s.withStore (s.store.link c n place), outcome := .ok (.node n) } := by
  have hof : (Method.ofPlace place).isOf (s.store.kind c) = true := by
    cases place <;> simpa [Method.ofPlace, Method.isOf] using hc.isContainer
  have hfor : s.containerFor (.node c) (.ofPlace place) = .ok c := by
    simp only [Entity.node, Session.containerFor, hof, if_true]
  rw [Construction.run, adopt_start hon hfor hnode, Session.checkFree_of_free hfree]
  simp only [Except.map, Pending.finish_of_free place hfree]

end Attach

/-- Let a node without a parent be attached to a container at or below `r` that is not below the node, and
neither `r` be its own ancestor. The text of `r` is then cut by the place in the container, and the text of
the node, indented as the children of the container are, is put in there. If code comes with the node, it is
the text of `r` with the frames around the container made fragile that is cut. -/
theorem attachment_splices_text {s : Session} (hs : s.Reachable) {r c n : NodeId} (place : Place)
    (hr : ¬ s.store.Cyclic r) (hc : s.store.Container c) (hcr : s.store.Climbs c r)
    (hn : n < s.store.size) (hfree : s.store.parent? n = none) (hcn : ¬ s.store.Climbs c n) :
    ∃ t, Pending.finish { subject := .node n, target? := some (c, place) } s = .ok t ∧
      (∀ on node, s.lookup on = .ok (.node c) → s.lookup node = .ok (.node n) →
        (Construction.adopt on node place).run s = { session := t, outcome := .ok (.node n) }) ∧
      ∃ host guest x, s.store.tree? r = some host ∧ s.store.tree? n = some guest ∧
        (if guest.brings .code then host.fragileTo c else host).cut? c place = some x ∧
        ∀ step : String,
          let before := Layout.render "" step x.before
          let inner := Layout.render (String.join (List.replicate x.depth step)) step guest.pieces
          let after := Layout.render "" step x.after
          (if guest.brings .code then host.fragileTo c else host).render step = before ++ after ∧
          (¬ s.store.HoldsForeign r →
            (s.write (.node r) step).outcome = .ok (.value (.text (host.render step)))) ∧
          (¬ s.store.HoldsForeign n → (s.write (.node n) step).outcome =
            .ok (.value (.text (Layout.render "" step guest.pieces)))) ∧
          (¬ s.store.HoldsForeign r → ¬ s.store.HoldsForeign n →
            (t.write (.node r) step).outcome = .ok (.value (.text (before ++ inner ++ after)))) ∧
          (s.store.HoldsForeign r ∨ s.store.HoldsForeign n →
            (t.write (.node r) step).FailsOn t.store r) := by
  have hwell := hs.wellFormed.store
  have hjoin : s.store.Joinable c n := ⟨hc, hn, hfree, hcn⟩
  obtain ⟨host, hhost⟩ := Store.exists_tree hwell hr
  obtain ⟨guest, hguest⟩ := Store.exists_tree hwell (Store.not_cyclic_of_free hfree)
  obtain ⟨x, grown, hcut, hgrown, hsplices⟩ := hjoin.exists_cut place hwell hcr hhost hguest
  refine ⟨s.withStore (s.store.link c n place), Pending.finish_of_free place hfree,
    fun on node hon hnode => adopt_run place hc hfree hon hnode, host, guest, x, hhost, hguest, hcut,
    fun step => ?_⟩
  have hwell' := hjoin.wellFormed place hwell
  have hforeign := hjoin.holdsForeign_link place hcr
  refine ⟨?_, fun htexts => Session.write_tree hwell hhost htexts step,
    fun htexts => Session.write_tree hwell hguest htexts step, fun htexts htexts' => ?_, fun h => ?_⟩
  · have hbefore := hsplices.before_eq
    rw [Tree.readied] at hbefore
    rw [Tree.render, hbefore, Cut.fill]
    simp [Layout.render_append, Layout.deepenBy]
  · have hnone := fun h => (hforeign.mp h).elim htexts htexts'
    have hwrite := Session.write_tree (s := s.withStore (s.store.link c n place)) hwell' hgrown hnone step
    rw [hwrite, Tree.render, hsplices.after_eq, Cut.fill, Layout.render_append, Layout.render_append,
      Layout.render_deepenBy, String.empty_append]
  · exact Session.write_foreign (s := s.withStore (s.store.link c n place)) hwell' hgrown
      (hforeign.mpr h) step

theorem attachment_splices_text_of_code :
    let script : List Step := [.act (.make (.frame none)) (some "f"),
      .build (.child "f" (.block "b")) (some "b"), .act (.make (.code "python" none)) (some "k")]
    let s := (runAll script {}).1
    ∃ t host guest x, Pending.finish { subject := .node 2, target? := some (1, .last) } s = .ok t ∧
      s.store.tree? 0 = some host ∧ s.store.tree? 2 = some guest ∧
      (host.fragileTo 1).cut? 1 .last = some x ∧ ∀ step,
        (t.write (.node 0) step).outcome = .ok (.value (.text (Layout.render "" step x.before ++
          Layout.render (String.join (List.replicate x.depth step)) step guest.pieces ++
          Layout.render "" step x.after))) := by
  intro script s
  have hs : s.Reachable := reachable_runAll script
  have hroot : s.store.parent? 0 = none := by decide
  have hcr : s.store.Climbs 1 0 := .of_parent? (by decide)
  have hcn : ¬ s.store.Climbs 1 2 := by
    intro h
    rcases h.total hcr with h | h
    · exact absurd (h.eq_of_free (by decide)) (by decide)
    · exact absurd (h.eq_of_free hroot) (by decide)
  have htexts : ∀ n, ¬ s.store.HoldsForeign n := Store.not_holdsForeign (by decide)
  obtain ⟨t, hfinish, -, host, guest, x, hhost, hguest, hcut, htext⟩ := attachment_splices_text hs .last
    (Store.not_cyclic_of_free hroot) ⟨by decide, by decide⟩ hcr (by decide) (by decide) hcn
  have hcode : guest.brings .code = true := by
    have hkind : guest.kind = .code := (Store.kind_of_treeWithin hguest).trans (by decide)
    simp [Tree.brings, hkind]
  rw [if_pos hcode] at hcut
  exact ⟨t, host, guest, x, hfinish, hhost, hguest, hcut,
    fun step => (htext step).2.2.2.1 (htexts 0) (htexts 2)⟩

end SlideDeck.Script
