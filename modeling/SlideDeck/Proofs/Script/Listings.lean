import SlideDeck.Proofs.Script.Ownership
import SlideDeck.Proofs.Store.DeckText

/-! Code in presentations: the frames around it are made fragile, and code in the document loads the package
for listings. -/

namespace SlideDeck.Script

namespace Session

variable {s : Session} {i : Nat} {d : Deck}

lemma deckRendering_of_write (hd : s.workspace.deck? i = some d) {step text : String}
    (h : (s.write (.object (.deck i)) step).outcome = .ok (.value (.text text))) :
    (s.deckRendering d).outcome = .ok text := by
  rw [write_deck hd, Sight.ofRendering] at h
  cases houtcome : (s.deckRendering d).outcome with
  | error cause => simp [houtcome, Except.map, Except.mapError] at h
  | ok text' => simpa [houtcome, Except.map, Except.mapError, Value.text] using h

end Session

/-- A presentation is its preamble, the line for listings exactly if there is code below its document, its
header, an empty line and its document, and it fails as the first of these that fails. Each frame of the
document prints its own options, and after them the one for code exactly if it lacks it and has code below it;
where that option is added, the line for listings is there. -/
theorem code_makes_fragile_and_loads_package {s : Session} (hs : s.Reachable) {i : Nat} {d : Deck}
    (hd : s.workspace.deck? i = some d) (hroots : ∀ n ∈ d.roots, ¬ s.store.Cyclic n) :
    let settings := s.workspace.settingsAt d.settings
    let package := d.package s.store settings
    (s.store.HoldsBelow .code d.document → package = settings.listingLine) ∧
    (¬ s.store.HoldsBelow .code d.document → package = "") ∧
    (∀ step, s.write (.object (.deck i)) step = .ofRendering (s.deckRendering d)) ∧
    ((s.deckRendering d).outcome = do
      let preamble ← (s.store.rendering settings.step? d.preamble).outcome
      let header ← (s.store.rendering settings.step? d.header).outcome
      let document ← (s.store.rendering settings.step? d.document).outcome
      return preamble ++ package ++ header ++ "\n" ++ document) ∧
    ∃ preamble header document, d.Consists s.store preamble header document ∧
      (∀ indent, settings.step? = some indent → (∀ n ∈ d.roots, ¬ s.store.HoldsForeign n) →
        (s.deckRendering d).outcome = .ok (preamble.render indent ++ package ++ header.render indent ++
          "\n" ++ document.render indent)) ∧
      ∀ n name a, s.store.Below n d.document →
        (s.store.node n).content = .environment .frame name a →
        let overlay := Layout.overlayLine (s.store.node n).slides?
        let printed := s.store.printedOptions n a.options
        (∃ frame x rest, s.store.tree? n = some frame ∧ frame.Fills x document ∧
          frame.pieces = overlay ++ .line overlay.length (Layout.beginLine name printed a) :: rest ∧
          ∀ indent, document.render indent = Layout.render "" indent x.before ++
            Layout.render (x.indent indent) indent frame.pieces ++ Layout.render "" indent x.after) ∧
        (fragile ∉ a.options ∧ s.store.HoldsBelow .code n →
          printed = a.options ++ [fragile] ∧ package = settings.listingLine) ∧
        (¬ (fragile ∉ a.options ∧ s.store.HoldsBelow .code n) → printed = a.options) := by
  intro settings package
  have hwell := hs.wellFormed.store
  obtain ⟨preamble, header, document, hparts⟩ := Deck.exists_consists hwell hroots
  refine ⟨Deck.package_of_holdsBelow, Deck.package_of_not_holdsBelow, Session.write_deck hd,
    Deck.rendering_outcome hwell (hroots d.document (by simp [Deck.roots])), preamble, header, document,
    hparts, fun indent hindent htexts => Deck.rendering_text hwell hparts htexts hindent,
    fun n name a hn hframe => ⟨?_, fun h => ?_, fun h => ?_⟩⟩
  · obtain ⟨frame, x, hframe', hfills⟩ := Store.exists_fills hwell hparts.document hn.climbs
    obtain ⟨rest, hpieces⟩ := Store.pieces_frame hwell hframe' hframe
    exact ⟨frame, x, rest, hframe', hfills, hpieces, hfills.render_eq⟩
  · exact ⟨if_pos h, Deck.package_of_holdsBelow (h.2.up hn.climbs)⟩
  · exact if_neg h

theorem code_makes_fragile_and_loads_package_of_block :
    let script : List Step := [.act (.makeDeck none .standard) (some "d"),
      .build (.child "d" (.frame (some "T"))) (some "f"), .build (.child "f" (.block "b")) (some "b"),
      .act (.make (.code "python" none)) (some "k"), .build (.adopt "b" "k" .last) none]
    let s := (runAll script {}).1
    ∃ d preamble header document frame x rest, s.workspace.deck? 0 = some d ∧
      d.Consists s.store preamble header document ∧
      (s.deckRendering d).outcome = .ok (preamble.render "  " ++
        "\\usepackage\x7bminted\x7d % to include source code\n" ++ header.render "  " ++ "\n" ++
        document.render "  ") ∧
      s.store.tree? 10 = some frame ∧ frame.Fills x document ∧
      frame.pieces = .line 0 "\\begin\x7bframe\x7d[fragile]\x7bT\x7d\n" :: rest := by
  intro script s
  have hs : s.Reachable := reachable_runAll script
  obtain ⟨d, hd, hroots, hstep, hline⟩ : ∃ d, s.workspace.deck? 0 = some d ∧
      (∀ n ∈ d.roots, s.store.parent? n = none) ∧
      (s.workspace.settingsAt d.settings).step? = some "  " ∧
      (s.workspace.settingsAt d.settings).listingLine =
        "\\usepackage\x7bminted\x7d % to include source code\n" := ⟨_, rfl, by decide, by decide, by decide⟩
  have hdocument : d.document = 0 := by
    obtain rfl := Option.some.inj hd
    rfl
  have hframe : s.store.Below 10 d.document := hdocument ▸ .of_parent? (by decide)
  have hcode : s.store.HoldsBelow .code 10 :=
    ⟨12, ⟨11, by decide, .of_parent? (by decide)⟩, by decide⟩
  obtain ⟨-, -, -, -, preamble, header, document, hparts, htext, hframes⟩ :=
    code_makes_fragile_and_loads_package hs hd fun n hn => Store.not_cyclic_of_free (hroots n hn)
  obtain ⟨⟨frame, x, rest, hframe', hfills, hpieces, -⟩, hprinted, -⟩ :=
    hframes 10 "frame" { required := ["T"] } hframe (by decide)
  obtain ⟨hoptions, hpackage⟩ := hprinted ⟨by decide, hcode⟩
  have hwritten := htext "  " hstep fun n _ => Store.not_holdsForeign (by decide) n
  rw [hpackage, hline] at hwritten
  rw [hoptions] at hpieces
  exact ⟨d, preamble, header, document, frame, x, rest, hd, hparts, hwritten, hframe', hfills, hpieces⟩

/-- Where there is code below the document of a presentation, the line for listings follows the preamble. So
it comes before the listing of each piece of code below the header or the document, and after those below the
preamble. Code that is elsewhere does not bring the line. -/
theorem document_code_loads_package_first {s : Session} (hs : s.Reachable) {i : Nat} {d : Deck}
    (hd : s.workspace.deck? i = some d) {step text : String}
    (h : (s.write (.object (.deck i)) step).outcome = .ok (.value (.text text))) :
    let line := (s.workspace.settingsAt d.settings).listingLine
    ∃ indent preamble header document,
      (s.workspace.settingsAt d.settings).step? = some indent ∧
      d.Consists s.store preamble header document ∧
      (¬ s.store.HoldsBelow .code d.document →
        text = preamble.render indent ++ header.render indent ++ "\n" ++ document.render indent) ∧
      (s.store.HoldsBelow .code d.document →
        text = preamble.render indent ++ line ++ header.render indent ++ "\n" ++ document.render indent ∧
        ∀ code listing, (s.store.node code).content.listing? = some listing →
          (s.store.Below code d.header → ∃ before shown after,
            s.store.Shows indent d.header listing before shown after ∧
            text = preamble.render indent ++ line ++ before ++ shown ++ after ++ "\n" ++
              document.render indent) ∧
          (s.store.Below code d.document → ∃ before shown after,
            s.store.Shows indent d.document listing before shown after ∧
            text = preamble.render indent ++ line ++ header.render indent ++ "\n" ++ before ++ shown ++
              after) ∧
          (s.store.Below code d.preamble → ∃ before shown after,
            s.store.Shows indent d.preamble listing before shown after ∧
            text = before ++ shown ++ after ++ line ++ header.render indent ++ "\n" ++
              document.render indent)) := by
  intro line
  have hwell := hs.wellFormed
  obtain ⟨indent, preamble, header, document, hindent, hparts, rfl⟩ := Deck.text_of_rendering hwell.store
    (hwell.deck? hd) (Session.deckRendering_of_write hd h)
  refine ⟨indent, preamble, header, document, hindent, hparts, fun hnone => ?_, fun hcode => ?_⟩
  · rw [Deck.package_of_not_holdsBelow hnone, String.append_empty]
  rw [Deck.package_of_holdsBelow hcode]
  refine ⟨rfl, fun code listing hlisting => ?_⟩
  -- the listing stays below its code, and so is written where a part with the code is
  have hshown {r : NodeId} {tree : Tree} (htree : s.store.tree? r = some tree)
      (hbelow : s.store.Below code r) :=
    Store.exists_shows hwell.store htree
      (.head (hwell.store.listing code listing hlisting).1 hbelow.climbs) indent
  refine ⟨fun hbelow => ?_, fun hbelow => ?_, fun hbelow => ?_⟩
  · obtain ⟨before, shown, after, hshows, htext⟩ := hshown hparts.header hbelow
    exact ⟨before, shown, after, hshows, by simp only [htext, String.append_assoc, line]⟩
  · obtain ⟨before, shown, after, hshows, htext⟩ := hshown hparts.document hbelow
    exact ⟨before, shown, after, hshows, by simp only [htext, String.append_assoc, line]⟩
  · obtain ⟨before, shown, after, hshows, htext⟩ := hshown hparts.preamble hbelow
    exact ⟨before, shown, after, hshows, by simp only [htext, String.append_assoc, line]⟩

theorem document_code_loads_package_first_of_macro :
    let script : List Step := [.act (.makeDeck none .standard) (some "d"),
      .build (.child "d" (.newCommand "listing" 0)) (some "m"),
      .act (.make (.code "python" none)) (some "k"), .build (.adopt "m" "k" .last) none,
      .build (.child "d" (.frame none)) (some "f"), .build (.child "f" (.code "c" none)) none]
    let s := (runAll script {}).1
    ∃ d text preamble document before shown after, s.workspace.deck? 0 = some d ∧
      (s.write (.object (.deck 0)) "").outcome = .ok (.value (.text text)) ∧
      s.store.Shows "  " d.header 12 before shown after ∧
      text = preamble ++ "\\usepackage\x7bminted\x7d % to include source code\n" ++ before ++ shown ++ after ++
        "\n" ++ document := by
  intro script s
  have hs : s.Reachable := reachable_runAll script
  obtain ⟨d, hd, hindent, hline⟩ : ∃ d, s.workspace.deck? 0 = some d ∧
      (s.workspace.settingsAt d.settings).step? = some "  " ∧
      (s.workspace.settingsAt d.settings).listingLine =
        "\\usepackage\x7bminted\x7d % to include source code\n" := ⟨_, rfl, by decide, by decide⟩
  have hroots : d.document = 0 ∧ d.header = 9 := by
    obtain rfl := Option.some.inj hd
    exact ⟨rfl, rfl⟩
  obtain ⟨text, hwritten⟩ : ∃ text, (s.write (.object (.deck 0)) "").text? = some text :=
    Option.isSome_iff_exists.mp (by decide +kernel)
  have houtcome := Sight.outcome_of_text? hwritten
  have hcode : s.store.HoldsBelow .code d.document :=
    ⟨14, ⟨13, by decide, hroots.1 ▸ .of_parent? (by decide)⟩, by decide⟩
  have hmacro : s.store.Below 11 d.header := ⟨10, by decide, hroots.2 ▸ .of_parent? (by decide)⟩
  obtain ⟨indent, preamble, header, document, hindent', -, -, hloads⟩ :=
    document_code_loads_package_first hs hd houtcome
  obtain rfl : "  " = indent := Option.some.inj (hindent.symm.trans hindent')
  obtain ⟨before, shown, after, hshows, htext⟩ := ((hloads hcode).2 11 12 (by decide)).1 hmacro
  rw [hline] at htext
  exact ⟨d, text, _, _, before, shown, after, hd, houtcome, hshows, htext⟩

def bytes (text : String) : List UInt8 := text.toByteArray.data.toList

lemma infix_bytes (before inner after : String) : bytes inner <:+: bytes (before ++ inner ++ after) := by
  simp only [bytes, String.toByteArray_append, ByteArray.data_append, Array.toList_append]
  exact List.infix_append _ _ _

def codeInMacro : List Step :=
  [.act (.makeDeck none (.data (.mapping [(.text "packages", .sequence [])]))) (some "d"),
    .build (.child "d" (.newCommand "listing" 0)) (some "m"),
    .act (.make (.code "python" none)) (some "k"), .build (.adopt "m" "k" .last) none]

/-- Code in a macro alone is written without the line for listings. -/
theorem macro_code_loads_no_package :
    ¬ ∀ s : Session, s.Reachable → ∀ (i : Nat) (d : Deck) (step text : String),
      s.workspace.deck? i = some d →
      (s.write (.object (.deck i)) step).outcome = .ok (.value (.text text)) →
      (∃ root ∈ d.roots, s.store.HoldsBelow .code root) →
      ∃ before after, text = before ++ (s.workspace.settingsAt d.settings).listingLine ++ after := by
  intro h
  obtain ⟨d, hd, hheader, hline⟩ : ∃ d, (runAll codeInMacro {}).1.workspace.deck? 0 = some d ∧
      d.header = 7 ∧ ((runAll codeInMacro {}).1.workspace.settingsAt d.settings).listingLine =
        "\\usepackage\x7bminted\x7d % to include source code\n" := ⟨_, rfl, rfl, by decide⟩
  obtain ⟨text, hwritten, hnone⟩ : ∃ text,
      ((runAll codeInMacro {}).1.write (.object (.deck 0)) "").outcome = .ok (.value (.text text)) ∧
      ¬ bytes "\\usepackage\x7bminted\x7d % to include source code\n" <:+: bytes text :=
    ⟨_, rfl, by decide +kernel⟩
  have hcode : (runAll codeInMacro {}).1.store.HoldsBelow .code d.header :=
    ⟨9, ⟨8, by decide, hheader ▸ .of_parent? (by decide)⟩, by decide⟩
  obtain ⟨before, after, rfl⟩ := h _ (reachable_runAll codeInMacro) 0 d "" text hd hwritten
    ⟨d.header, by simp [Deck.roots], hcode⟩
  rw [hline] at hnone
  exact hnone (infix_bytes before _ after)

end SlideDeck.Script
