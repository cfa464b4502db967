import SlideDeck.Proofs.Script.DeckRoots
import SlideDeck.Proofs.Script.Listings
import SlideDeck.Proofs.Script.Rendering
import SlideDeck.Proofs.Store.Opening

/-! Declaring the title of a presentation: it gets a title page and an outline before all else, and the lines about
the title behind its header. -/

namespace SlideDeck.Script

namespace Session

variable {s : Session} {i : ℕ} {d : Deck}

lemma change_setTitle (hd : s.workspace.deck? i = some d) (title author : String) (date? subtitle? : Option String) :
    s.change (.object (.deck i)) (.setTitle title author date? subtitle?) =
      .ok (s.withStore (d.setTitle s.store title author date? subtitle?), .nothing) := by
  simp only [change, hd]

lemma write_of_deckRendering (hd : s.workspace.deck? i = some d) (step : String) {text : String}
    (h : (s.deckRendering d).outcome = .ok text) :
    (s.write (.object (.deck i)) step).outcome = .ok (.value (.text text)) := by
  rw [write_deck hd, Sight.ofRendering, h]
  rfl

lemma write_of_cause (hd : s.workspace.deck? i = some d) (step : String) {cause : Obstacle}
    (h : (s.deckRendering d).outcome = .error cause) :
    (s.write (.object (.deck i)) step).outcome = .error (.ofObstacle cause) := by
  rw [write_deck hd, Sight.ofRendering, h]
  rfl

lemma exists_cause_of_write (hd : s.workspace.deck? i = some d) {step : String} {fault : Fault}
    (h : (s.write (.object (.deck i)) step).outcome = .error fault) :
    ∃ cause, (s.deckRendering d).outcome = .error cause ∧ Fault.ofObstacle cause = fault := by
  cases houtcome : (s.deckRendering d).outcome with
  | error cause => exact ⟨cause, rfl, Except.error.inj ((write_of_cause hd step houtcome).symm.trans h)⟩
  | ok text =>
    rw [write_of_deckRendering hd step houtcome] at h
    cases h

end Session

open Layout in
/-- The title of a presentation can always be declared. Its document then begins with a title page and an outline
before what it has held, its header ends with the lines about the title behind what it has held, and no other node
has changed. If its parts have no parents, it is written as before, but for those lines at the end of the header and
the two slides behind the line that begins the document; what could not be written still cannot. -/
theorem title_opens_talk {s : Session} (hs : s.Reachable) {i : ℕ} {d : Deck} (hd : s.workspace.deck? i = some d)
    (title author : String) (date? subtitle? : Option String) :
    let lines := Deck.titleTrees d.header s.store.size title author date? subtitle?
    let settings := s.workspace.settingsAt d.settings
    ∃ t n, let slides := Deck.openingTrees d.document n title
      s.change (.object (.deck i)) (.setTitle title author date? subtitle?) = .ok (t, .nothing) ∧
      (∀ on result?, s.lookup on = .ok (.object (.deck i)) →
        let declared := (Step.act (.change on (.setTitle title author date? subtitle?)) result?).run s
        declared.1.workspace = t.workspace ∧ declared.2.fault? = none) ∧
      t = s.withStore t.store ∧
      d.Opens s.store t.store lines slides ∧
      ((∀ n ∈ d.roots, s.store.parent? n = none) →
        (∀ step text, (s.write (.object (.deck i)) step).outcome = .ok (.value (.text text)) →
          ∃ indent name a preamble header document rest, settings.step? = some indent ∧
            (s.store.node d.document).content = .environment .plain name a ∧
            d.Consists s.store preamble header document ∧
            let start := render "" indent (beginning (s.store.node d.document).slides? name a)
            let base := String.join (List.replicate (levels (s.store.node d.document)) indent)
            let package := d.package s.store settings
            document.render indent = start ++ rest ∧
            text = preamble.render indent ++ package ++ header.render indent ++ "\n" ++ (start ++ rest) ∧
            (t.write (.object (.deck i)) step).outcome = .ok (.value (.text (preamble.render indent ++ package ++
              (header.render indent ++ Deck.titleText indent title author date? subtitle?) ++ "\n" ++
              (start ++ Deck.openingText base indent title ++ rest))))) ∧
        ∀ step fault, (s.write (.object (.deck i)) step).outcome = .error fault →
          (t.write (.object (.deck i)) step).outcome = .error fault) := by
  intro lines settings
  have hwell := hs.wellFormed
  have hw := hwell.deck? hd
  obtain ⟨n, hopens⟩ := Deck.setTitle_opens hw title author date? subtitle?
  have hedits := Deck.setTitle_edits hw title author date? subtitle?
  have hchange := Session.change_setTitle hd title author date? subtitle?
  generalize d.setTitle s.store title author date? subtitle? = store at hopens hedits hchange
  have hd' : (s.withStore store).workspace.deck? i = some d := hd
  refine ⟨s.withStore store, n, hchange, fun on result? hon => ?_, rfl, hopens, fun hfree => ?_⟩
  · have hrun : (Action.change on (.setTitle title author date? subtitle?)).run s =
        { session := s.withStore store, outcome := .ok .nothing } := by
      simp only [Action.run, hon, bind, Except.bind, hchange, Effect.ofResult]
    rw [Step.run, hrun, Session.answer]
    exact ⟨Session.workspace_bind _ _ _, rfl⟩
  have hstore := hwell.store
  have hstore' : store.WellFormed := hedits.wellFormed hstore
  have hw' : d.Within store := hw.grows hedits.grows
  have happart := hs.rootsApart d (Array.mem_of_getElem? hd)
  obtain ⟨preamble, headed, body, hgrown⟩ := hopens.exists_grown hstore hstore' hw happart hfree
  have hnew := Deck.harmless d.header d.document s.store.size n title author date? subtitle?
  refine ⟨fun step text htext => ?_, fun step fault hfault => ?_⟩
  · have hrendering := Session.deckRendering_of_write hd htext
    obtain ⟨hindent, hroots⟩ := (Deck.rendering_ok_iff hstore hw).mp ⟨text, hrendering⟩
    obtain ⟨indent, hindent⟩ := Option.isSome_iff_exists.mp hindent
    obtain ⟨name, a, hname⟩ := hw.exists_environment
    obtain ⟨preamble, header, document, rest, hparts, hdocument, hbefore, hafter⟩ := hopens.rendering_text hstore
      hstore' hnew hgrown hw (fun n hn => (hroots n hn).2) hindent hname
    rw [Deck.render_titleTrees, Deck.render_openingTrees] at hafter
    have htext' := Except.ok.inj (hrendering.symm.trans hbefore)
    exact ⟨indent, name, a, preamble, header, document, rest, hindent, hname, hparts, hdocument, htext',
      Session.write_of_deckRendering hd' step hafter⟩
  · obtain ⟨cause, hcause, hof⟩ := Session.exists_cause_of_write hd hfault
    have hcause' := hopens.rendering_error hstore hstore' hnew hgrown hw hcause
    exact (Session.write_of_cause hd' step hcause').trans (congrArg Except.error hof)

theorem title_opens_talk_again :
    let script : List Step := [.act (.makeDeck none .standard) (some "d"),
      .build (.child "d" (.frame (some "T"))) (some "f"), .build (.child "f" (.code "python" none)) none,
      .act (.change "d" (.setTitle "A" "B" (some "C") none)) none, .act (.look "d" (.field "document")) (some "b"),
      .act (.change "b" (.addSlideQualifier 2)) none]
    let s := (runAll script {}).1
    ∃ t n front header rest, s.change (.object (.deck 0)) (.setTitle "E" "F" none (some "G")) = .ok (t, .nothing) ∧
      t.store.children 0 = [n + 2, n] ++ s.store.children 0 ∧
      (s.write (.object (.deck 0)) "").outcome = .ok (.value (.text (front ++ header ++ "\n" ++
        ("\\onslide<2->\x7b\n  \\begin\x7bdocument\x7d\n" ++ rest)))) ∧
      (t.write (.object (.deck 0)) "").outcome = .ok (.value (.text (front ++
        (header ++ Deck.titleText "  " "E" "F" none (some "G")) ++ "\n" ++
        ("\\onslide<2->\x7b\n  \\begin\x7bdocument\x7d\n" ++ Deck.openingText "    " "  " "E" ++ rest)))) := by
  intro script s
  have hs : s.Reachable := reachable_runAll script
  obtain ⟨d, hd, hroots, hstep, hdocument⟩ : ∃ d, s.workspace.deck? 0 = some d ∧
      (∀ n ∈ d.roots, s.store.parent? n = none) ∧
      (s.workspace.settingsAt d.settings).step? = some "  " ∧ d.document = 0 := ⟨_, rfl, by decide, by decide, rfl⟩
  have htexts : ∀ n, ¬ s.store.HoldsForeign n := Store.not_holdsForeign (by decide)
  obtain ⟨text, htext⟩ := (Session.write_deck_accounted hs.wellFormed hd "").showsText_iff.mpr
    ⟨by rw [hstep]; rfl, fun n hn => ⟨Store.not_cyclic_of_free (hroots n hn), htexts n⟩⟩
  obtain ⟨t, n, hchange, -, -, hopens, hwritten⟩ := title_opens_talk hs hd "E" "F" none (some "G")
  obtain ⟨indent, name, a, preamble, header, document, rest, hindent, hcontent, -, -, rfl, hafter⟩ :=
    (hwritten hroots).1 "" text htext
  obtain rfl : indent = "  " := Option.some.inj (hindent.symm.trans hstep)
  have hnode : (s.store.node 0).content = .environment .plain "document" {} ∧ (s.store.node 0).slides? = some 2 := by
    decide
  have hchildren : t.store.children d.document = _ := congrArg Node.children hopens.document
  rw [hdocument] at hchildren hcontent hafter htext
  obtain ⟨rfl, rfl⟩ : name = "document" ∧ a = {} := by simpa [hnode.1] using hcontent.symm
  have hlevels : Layout.levels (s.store.node 0) = 2 := by decide
  rw [hnode.2] at hafter htext
  rw [hlevels] at hafter
  exact ⟨t, n, _, _, rest, hchange, hchildren, htext, hafter⟩

end SlideDeck.Script
