import SlideDeck.Proofs.Script.Splicing
import SlideDeck.Proofs.Store.Environments

/-! The environments of a written text are nested as the nodes are that are written as environments. -/

namespace SlideDeck.Script

open Marks

/-- Let no text at or below a node begin or end an environment, and the indentation have no backslash. What is
written then has one environment for each environment, block and piece of code among these nodes, in their
order, and each end in it is that of the innermost environment that is open there. -/
theorem written_environments_nest {s : Session} (hs : s.Reachable) {n : NodeId} {indent : String}
    (hacyclic : ¬ s.store.Cyclic n) (htexts : ¬ s.store.HoldsForeign n) (htidy : s.store.TidyTexts n)
    (hindent : '\\' ∉ indent.toList) :
    ∃ t text, s.store.tree? n = some t ∧ t.ids.Nodup ∧ (∀ m, m ∈ t.ids ↔ s.store.Climbs m n) ∧
      (s.write (.node n) indent).outcome = .ok (.value (.text text)) ∧
      Nested (marks text.toList) ∧
      (marks text.toList).filterMap Mark.opened? = s.store.environments t.ids := by
  have hwell := hs.wellFormed.store
  obtain ⟨t, ht⟩ := Store.exists_tree hwell hacyclic
  have hnest := Store.render_nest hwell ht htidy hindent
  obtain ⟨hid, hmatches⟩ := Store.matches_of_tree? ht
  exact ⟨t, t.render indent, ht, hmatches.nodup_ids hwell, fun m => hid ▸ hmatches.mem_ids_iff hwell,
    Session.write_tree hwell ht htexts indent, hnest.closed [], hnest.opened⟩

theorem written_environments_nest_of_frame :
    let script : List Step := [.act (.make (.frame (some "T"))) (some "f"),
      .act (.change "f" (.addSlideQualifier (-3))) none,
      .build (.child "f" .itemize) (some "i"), .build (.child "i" (.appendText "/begin/..." (some 2))) none,
      .build (.child "f" (.code "python" none)) none]
    let s := (runAll script {}).1
    ∃ text, (s.write (.node 0) "\t").outcome = .ok (.value (.text text)) ∧ Nested (marks text.toList) ∧
      (marks text.toList).filterMap Mark.opened? = ["frame", "itemize", "block", "minted"] := by
  intro script s
  have hs : s.Reachable := reachable_runAll script
  have htidy : ∀ n, s.store.TidyTexts n := Store.tidyTexts (by decide)
  have hroot : s.store.parent? 0 = none := by decide
  have hindent : '\\' ∉ "\t".toList := by decide
  obtain ⟨t, text, ht, -, -, hwritten, hnested, hopened⟩ := written_environments_nest hs
    (Store.not_cyclic_of_free hroot) (Store.not_holdsForeign (by decide) 0) (htidy 0) hindent
  have hnames : (s.store.tree? 0).map (fun t => s.store.environments t.ids) =
      some ["frame", "itemize", "block", "minted"] := by decide
  rw [ht] at hnames
  exact ⟨text, hwritten, hnested, hopened.trans (Option.some.inj hnames)⟩

end SlideDeck.Script
