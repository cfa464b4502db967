import SlideDeck.Proofs.Script.Listings
import SlideDeck.Proofs.Script.Splicing
import SlideDeck.Proofs.Store.Braces

/-! Balanced texts are written as balanced texts, by nodes as by presentations. -/

namespace SlideDeck.Script

open Braces

/-- Light markup keeps a text balanced. A node that is not its own ancestor is written as a balanced text if
all texts at and below it are balanced and the indentation has no braces, and so is a presentation if that
holds of its parts and the comment on the line for listings is balanced. -/
theorem balanced_texts_are_written_balanced :
    (∀ text, Balanced text → Balanced (translate text)) ∧
    ∀ s : Session, s.Reachable →
      (∀ (n : NodeId) (indent : String), ¬ s.store.Cyclic n → ¬ s.store.HoldsForeign n →
        s.store.BalancedTexts n → Braceless indent →
        ∃ text, (s.write (.node n) indent).outcome = .ok (.value (.text text)) ∧ Balanced text) ∧
      ∀ (i : Nat) (d : Deck) (step : String), s.workspace.deck? i = some d →
        let settings := s.workspace.settingsAt d.settings
        ∀ indent, settings.step? = some indent → Braceless indent →
          (∀ comment ∈ settings.comment?, Balanced comment) →
          (∀ n ∈ d.roots, ¬ s.store.Cyclic n ∧ ¬ s.store.HoldsForeign n ∧ s.store.BalancedTexts n) →
          ∃ text, (s.write (.object (.deck i)) step).outcome = .ok (.value (.text text)) ∧
            Balanced text := by
  refine ⟨fun text h => balanced_translate h, fun s hs => ?_⟩
  have hwell := hs.wellFormed.store
  refine ⟨?_, ?_⟩
  · intro n indent hacyclic htexts hbalanced hindent
    obtain ⟨t, ht⟩ := Store.exists_tree hwell hacyclic
    exact ⟨_, Session.write_tree hwell ht htexts indent, Store.balanced_render hwell ht hbalanced hindent⟩
  · intro i d step hd settings indent hstep hindent hcomment hroots
    obtain ⟨preamble, header, document, hparts⟩ := Deck.exists_consists hwell fun n hn => (hroots n hn).1
    have hwritten := Deck.rendering_text hwell hparts (fun n hn => (hroots n hn).2.1) hstep
    have hpart {n : NodeId} {t : Tree} (hn : n ∈ d.roots) (ht : s.store.tree? n = some t) :
        Balanced (t.render indent) := Store.balanced_render hwell ht (hroots n hn).2.2 hindent
    have hpreamble := hpart (by simp [Deck.roots]) hparts.preamble
    have hheader := hpart (by simp [Deck.roots]) hparts.header
    have hdocument := hpart (by simp [Deck.roots]) hparts.document
    have hpackage : Balanced (d.package s.store settings) := Deck.balanced_package hcomment
    have hline : Balanced "\n" := by decide
    refine ⟨_, ?_, (((hpreamble.append hpackage).append hheader).append hline).append hdocument⟩
    rw [Session.write_deck hd, Sight.ofRendering, Session.deckRendering, hwritten]
    rfl

theorem balanced_texts_are_written_balanced_of_slide :
    let script : List Step := [.act (.makeDeck none .standard) (some "d"),
      .build (.child "d" (.frame (some "\x7b/T\x7d/"))) (some "f"),
      .act (.change "f" (.addSlideQualifier (-3))) none,
      .build (.child "f" (.appendText "\x7b/b\x7d/" (some 2))) none,
      .build (.child "f" (.code "python" none)) none]
    let s := (runAll script {}).1
    translate "\x7b/b\x7d/" = "\x7b\\textit\x7bb\x7d\x7d" ∧ Balanced (translate "\x7b/b\x7d/") ∧
      (∃ text, (s.write (.node 10) "\t").outcome = .ok (.value (.text text)) ∧ Balanced text) ∧
      ∃ text, (s.write (.object (.deck 0)) "").outcome = .ok (.value (.text text)) ∧ Balanced text := by
  intro script s
  have hs : s.Reachable := reachable_runAll script
  have htexts : ∀ n, ¬ s.store.HoldsForeign n := Store.not_holdsForeign (by decide)
  have hbalanced : ∀ n, s.store.BalancedTexts n := Store.balancedTexts (by decide)
  obtain ⟨d, hd, hroots, hstep, hcomment⟩ : ∃ d, s.workspace.deck? 0 = some d ∧
      (∀ n ∈ d.roots, s.store.parent? n = none) ∧
      (s.workspace.settingsAt d.settings).step? = some "  " ∧
      ∀ comment ∈ (s.workspace.settingsAt d.settings).comment?, Balanced comment :=
    ⟨_, rfl, by decide, by decide, by decide⟩
  have hacyclic : ¬ s.store.Cyclic 10 := fun h =>
    Store.not_cyclic_of_free (by decide) (h.climbs (.of_parent? (show s.store.parent? 10 = some 0 by decide)))
  obtain ⟨htranslate, hwritten⟩ := balanced_texts_are_written_balanced
  refine ⟨by decide, htranslate _ (by decide),
    (hwritten s hs).1 10 "\t" hacyclic (htexts 10) (hbalanced 10) (by decide), ?_⟩
  exact (hwritten s hs).2 0 d "" hd "  " hstep (by decide) hcomment fun n hn =>
    ⟨Store.not_cyclic_of_free (hroots n hn), htexts n, hbalanced n⟩

end SlideDeck.Script
