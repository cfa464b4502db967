import SlideDeck.Proofs.Script.Listings
import SlideDeck.Proofs.Script.Splicing
import SlideDeck.Proofs.Script.Supplying
import SlideDeck.Proofs.Store.Verbatim
import SlideDeck.Proofs.Text.Trimming

/-! Source code is written verbatim, wherever its listing stands. -/

namespace SlideDeck.Script

/-- A listing that has been supplied with sources alone is written with exactly these between its first line and the
indentation of its last line: each without the blanks at its ends and with a line break, and nothing before, between
or after them. This does not depend on what is around the code, on the indentation, or on slides. -/
theorem sources_are_verbatim {s : Session} {pending : List Pending} {c listing : NodeId} {title language : String}
    {sources : List String} (h : Supplied listing sources ⟨s, pending⟩)
    (hc : (s.store.node c).content = .code title language listing) :
    let body := String.join (sources.map fun source => Text.trim source ++ "\n")
    s.store.parent? listing = some c ∧
    (∃ name a, (s.store.node listing).content = .environment .plain name a ∧
      let shown (depth : ℕ) (indent : String) := Layout.verbatimText (String.join (List.replicate depth indent)) indent
        (s.store.node listing).slides? name a body
      (∀ n indent, s.store.Climbs c n → ¬ s.store.Cyclic n → ¬ s.store.HoldsForeign n → ∃ before depth after,
        s.store.Shows indent n listing before (shown depth indent) after ∧
        (s.write (.node n) indent).outcome = .ok (.value (.text (before ++ shown depth indent ++ after)))) ∧
      ∀ i d step text, s.workspace.deck? i = some d →
        (s.write (.object (.deck i)) step).outcome = .ok (.value (.text text)) →
        ∀ n ∈ d.roots, s.store.Climbs c n → ∃ indent before depth after,
          (s.workspace.settingsAt d.settings).step? = some indent ∧
          text = before ++ shown depth indent ++ after) ∧
    ∀ text, Text.Trims text.toList (Text.trim text).toList ∧ Text.trim (Text.trim text) = Text.trim text := by
  intro body
  have hwell := (show s.Reachable from ⟨pending, h.reached⟩).wellFormed
  have hstore := hwell.store
  obtain ⟨hparent, hkind⟩ := hstore.listing c listing (by rw [hc]; rfl)
  obtain ⟨name, a, hroot⟩ := Content.exists_plain hkind
  have hraw : (s.store.children listing).map (fun n => (s.store.node n).content) =
      (sources.map fun source => Text.trim source ++ "\n").map Content.raw := by
    rw [List.map_map]
    exact h.lists
  have hshown {n : NodeId} {tree : Tree} (htree : s.store.tree? n = some tree) (hclimbs : s.store.Climbs c n) :=
    Store.exists_verbatim hstore htree (.head hparent hclimbs) hroot hraw
  refine ⟨hparent, ⟨name, a, hroot, fun n indent hclimbs hacyclic htexts => ?_,
    fun i d step text hd htext n hn hclimbs => ?_⟩, fun text => ⟨?_, Text.trim_trim text⟩⟩
  · obtain ⟨tree, htree⟩ := Store.exists_tree hstore hacyclic
    obtain ⟨before, depth, after, hshows, hrender⟩ := hshown htree hclimbs indent
    exact ⟨before, depth, after, hshows, hrender ▸ Session.write_tree hstore htree htexts indent⟩
  · obtain ⟨indent, preamble, header, document, hindent, hparts, rfl⟩ := Deck.text_of_rendering hstore
      (hwell.deck? hd) (Session.deckRendering_of_write hd htext)
    obtain ⟨tree, front, back, htree, hpart⟩ := hparts.exists_part hn (s.workspace.settingsAt d.settings) indent
    obtain ⟨before, depth, after, -, hrender⟩ := hshown htree hclimbs indent
    refine ⟨indent, front ++ before, depth, after ++ back, hindent, ?_⟩
    rw [hpart, hrender]
    simp only [String.append_assoc, body]
  · rw [Text.toList_trim]
    exact Text.trims_trimChars text.toList

theorem sources_are_verbatim_of_frame :
    let script : List Step := [.act (.make (.code "python" none)) (some "k"),
      .act (.change "k" (.addSource "\n  a//b |c|\n\n")) none, .act (.look "k" (.field "minted")) (some "m"),
      .act (.change "m" (.addSlideQualifier 2)) none, .act (.change "k" (.addSource "\t...\x7d\u3000")) none,
      .act (.make (.frame none)) (some "f"), .build (.adopt "f" "k" .last) none]
    let s := (runAll script {}).1
    ∃ before depth after, (s.write (.node 4) "\t").outcome = .ok (.value (.text (before ++
      Layout.verbatimText (String.join (List.replicate depth "\t")) "\t" (some 2) "minted" { required := ["python"] }
        "a//b |c|\n...\x7d\n" ++ after))) := by
  intro script s
  have hnew : Supplied 1 [] ⟨{}, []⟩ := .start
  have hmade := hnew.run_act (.make (.code "python" none)) (some "k") ⟨by decide, nofun⟩
  have hfirst := hmade.run_source "k" "\n  a//b |c|\n\n" none rfl rfl
  have hlooked := hfirst.run_act (.look "k" (.field "minted")) (some "m") ⟨by decide, nofun⟩
  have hqualified := hlooked.run_act (.change "m" (.addSlideQualifier 2)) none ⟨by decide, nofun⟩
  have hsecond := hqualified.run_source "k" "\t...\x7d\u3000" none rfl rfl
  have hframed := hsecond.run_act (.make (.frame none)) (some "f") ⟨by decide, nofun⟩
  have h : Supplied 1 _ ⟨s, []⟩ := hframed.run_build (.adopt "f" "k" .last) none (by decide)
  have hcode : (s.store.node 0).content = .code "python" "python" 1 := by decide
  have hlisting : (s.store.node 1).content = .environment .plain "minted" { required := ["python"] } ∧
      (s.store.node 1).slides? = some 2 := by decide
  obtain ⟨-, ⟨name, a, hroot, hwritten, -⟩, -⟩ := sources_are_verbatim h hcode
  obtain ⟨rfl, rfl⟩ : name = "minted" ∧ a = { required := ["python"] } := by
    simpa [hlisting.1] using hroot.symm
  obtain ⟨before, depth, after, -, htext⟩ := hwritten 4 "\t" (.of_parent? (by decide))
    (Store.not_cyclic_of_free (by decide)) (Store.not_holdsForeign (by decide) 4)
  rw [hlisting.2] at htext
  exact ⟨before, depth, after, htext⟩

end SlideDeck.Script
