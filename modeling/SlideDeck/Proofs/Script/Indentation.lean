import SlideDeck.Proofs.Indentation
import SlideDeck.Proofs.Script.Splicing

/-! What a node is written as with one indentation and with another differs by nothing but the indentation. -/

namespace SlideDeck.Script

/-- A node that is not its own ancestor is written as the same chunks at the same depths whatever the
indentation. Among them are, in their order, its raw texts as they are and at no depth, and its running texts
with their light markup, deeper by a step for each container around them but headers, and by one more for each
environment qualified by slides. -/
theorem indentation_is_prefixes {s : Session} (hs : s.Reachable) {n : NodeId} (hacyclic : ¬ s.store.Cyclic n)
    (htexts : ¬ s.store.HoldsForeign n) :
    ∃ t chunks, s.store.tree? n = some t ∧
      (∀ indent, (s.write (.node n) indent).outcome = .ok (.value (.text (indented indent chunks)))) ∧
      (t.leafChunks 0).Sublist chunks := by
  have hwell := hs.wellFormed.store
  obtain ⟨t, ht⟩ := Store.exists_tree hwell hacyclic
  refine ⟨t, t.pieces.map Piece.chunk, ht, fun indent => ?_, ?_⟩
  · rw [Session.write_tree hwell ht htexts, Tree.render, Layout.render_eq_indented]
  · have hsublist := t.leafChunks_sublist 0
    rwa [Layout.chunksAt, Layout.deepenBy_zero] at hsublist

theorem indentation_is_prefixes_of_block :
    let script : List Step := [.act (.make (.frame none)) (some "f"),
      .act (.change "f" (.addSlideQualifier 2)) none, .build (.child "f" (.block "b")) (some "b"),
      .build (.child "b" (.appendText "/a/" none)) none, .build (.child "b" (.comment "c")) none]
    let s := (runAll script {}).1
    ∃ chunks, (∀ indent, (s.write (.node 0) indent).outcome =
        .ok (.value (.text (indented indent chunks)))) ∧
      [(3, "\\textit\x7ba\x7d\n"), (0, "%c\n")].Sublist chunks := by
  intro script s
  have hs : s.Reachable := reachable_runAll script
  have hroot : s.store.parent? 0 = none := by decide
  obtain ⟨t, chunks, ht, hwritten, hsublist⟩ := indentation_is_prefixes hs
    (Store.not_cyclic_of_free hroot) (Store.not_holdsForeign (by decide) 0)
  have hleaves : (s.store.tree? 0).map (Tree.leafChunks 0) =
      some [(3, "\\textit\x7ba\x7d\n"), (0, "%c\n")] := by decide
  rw [ht] at hleaves
  exact ⟨chunks, hwritten, Option.some.inj hleaves ▸ hsublist⟩

end SlideDeck.Script
