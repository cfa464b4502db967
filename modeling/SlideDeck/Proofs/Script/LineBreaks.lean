import SlideDeck.Proofs.Script.Splicing
import SlideDeck.Proofs.Store.LineBreaks

/-! How many lines a written text has, and where the nodes begin in it. -/

namespace SlideDeck.Script

open Marks

/-- If nothing that is written within a line has a line break, nor the indentation, a text has the line breaks
of its nodes, each node with those of its own text or of the lines around its children. If every leaf ends with
a line break, neither the whole nor what comes before any node of it stops within a line. -/
theorem written_line_breaks {s : Session} (hs : s.Reachable) {n : NodeId} (indent : String)
    (hacyclic : ¬ s.store.Cyclic n) (htexts : ¬ s.store.HoldsForeign n) :
    ∃ t text, s.store.tree? n = some t ∧ t.ids.Nodup ∧ (∀ m, m ∈ t.ids ↔ s.store.Climbs m n) ∧
      (s.write (.node n) indent).outcome = .ok (.value (.text text)) ∧
      (s.store.UnbrokenLabels n → '\n' ∉ indent.toList →
        lineBreaks text = (t.ids.map fun m => (s.store.node m).breaks).sum) ∧
      (∀ m, s.store.Climbs m n → ∃ before shown after, s.store.Shows indent n m before shown after) ∧
      (s.store.WholeLeaves n → WholeLines text ∧
        ∀ m before shown after, s.store.Shows indent n m before shown after →
          text = before ++ shown ++ after ∧ WholeLines before) := by
  have hwell := hs.wellFormed.store
  obtain ⟨t, ht⟩ := Store.exists_tree hwell hacyclic
  obtain ⟨hid, hmatches⟩ := Store.matches_of_tree? ht
  refine ⟨t, t.render indent, ht, hmatches.nodup_ids hwell, fun m => hid ▸ hmatches.mem_ids_iff hwell,
    Session.write_tree hwell ht htexts indent, Store.lineBreaks_render hwell ht, fun m hm => ?_,
    fun hleaves => ⟨(Store.endLines_pieces hwell ht hleaves).wholeLines_render,
      fun m before shown after h => ⟨h.render_eq ht, h.wholeLines hwell hleaves⟩⟩⟩
  obtain ⟨before, shown, after, hshows, -⟩ := Store.exists_shows hwell ht hm indent
  exact ⟨before, shown, after, hshows⟩

theorem written_line_breaks_of_frame :
    let script : List Step := [.act (.make (.frame (some "T"))) (some "f"),
      .act (.change "f" (.addSlideQualifier (-3))) none,
      .build (.child "f" (.appendText "/two\nlines/" none)) none,
      .build (.child "f" (.code "python" none)) none, .build (.child "f" (.containingCommand "alert")) (some "a"),
      .act (.change "a" (.setComment (some "wait"))) none]
    let s := (runAll script {}).1
    ∃ text, (s.write (.node 0) "\t").outcome = .ok (.value (.text text)) ∧
      lineBreaks text = 4 + (2 + (2 + 2) + 3) ∧ WholeLines text ∧
      ∃ before shown after, s.store.Shows "\t" 0 3 before shown after ∧
        text = before ++ shown ++ after ∧ WholeLines before := by
  intro script s
  have hs : s.Reachable := reachable_runAll script
  have hroot : s.store.parent? 0 = none := by decide
  have hlabels : s.store.UnbrokenLabels 0 := fun m _ =>
    Store.forall_node (P := fun n => ∀ label ∈ n.content.labels, '\n' ∉ label.toList) (by decide) (by decide) m
  have hleaves : s.store.WholeLeaves 0 := fun m _ =>
    Store.forall_node (P := fun n => ∀ text ∈ n.content.leaf?, EndsLine text) (by decide) (by decide) m
  obtain ⟨t, text, ht, -, -, hwritten, hbreaks, hshown, hwhole⟩ := written_line_breaks hs "\t"
    (Store.not_cyclic_of_free hroot) (Store.not_holdsForeign (by decide) 0)
  have hsum : (s.store.tree? 0).map (fun t => (t.ids.map fun m => (s.store.node m).breaks).sum) = some 13 := by
    decide
  rw [ht] at hsum
  have hcode : s.store.Climbs 2 0 := .of_parent? (by decide)
  have hlisting : s.store.Climbs 3 2 := .of_parent? (by decide)
  obtain ⟨before, shown, after, hshows⟩ := hshown 3 (hlisting.trans hcode)
  exact ⟨text, hwritten, (hbreaks hlabels (by decide)).trans (Option.some.inj hsum), (hwhole hleaves).1, before,
    shown, after, hshows, (hwhole hleaves).2 3 before shown after hshows⟩

end SlideDeck.Script
