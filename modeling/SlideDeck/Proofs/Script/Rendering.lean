import SlideDeck.Proofs.Script.Ownership
import SlideDeck.Proofs.Store.DeckRendering

/-! Exactly when writing fails along scripts: on a node that is its own ancestor, and on what has a wrong type. -/

namespace SlideDeck.Script

def Sight.ShowsText (x : Sight) : Prop := ∃ text, x.outcome = .ok (.value (.text text))

namespace Sight

variable {r : Rendering}

lemma showsText_ofRendering : (ofRendering r).ShowsText ↔ ∃ text, r.outcome = .ok text := by
  simp only [ShowsText, ofRendering]
  cases r.outcome with
  | error cause => simp [Except.map, Except.mapError]
  | ok text => simp [Except.map, Except.mapError]

lemma ofObstacle_inj {cause other : Obstacle} (h : Fault.ofObstacle cause = .ofObstacle other) : cause = other := by
  cases cause <;> cases other <;> simp_all [Fault.ofObstacle]

lemma ofRendering_eq_error_iff (cause : Obstacle) :
    (ofRendering r).outcome = .error (.ofObstacle cause) ↔ r.outcome = .error cause := by
  simp only [ofRendering]
  cases r.outcome with
  | error other => exact ⟨fun h => congrArg _ (ofObstacle_inj (Except.error.inj h)), fun h => by cases h; rfl⟩
  | ok text => simp [Except.map, Except.mapError]

lemma ofRendering_cases : (ofRendering r).ShowsText ∨
    ∃ cause, r.outcome = .error cause ∧ (ofRendering r).outcome = .error (.ofObstacle cause) := by
  cases houtcome : r.outcome with
  | ok text => exact .inl (showsText_ofRendering.mpr ⟨text, houtcome⟩)
  | error cause => exact .inr ⟨cause, rfl, (ofRendering_eq_error_iff cause).mpr houtcome⟩

end Sight

/-- What writing the nodes at some roots comes to, given that the settings for it are `proper`. -/
structure Sight.Accounted (x : Sight) (s : Store) (roots : List NodeId) (proper : Prop) : Prop where
  showsText_iff : x.ShowsText ↔ proper ∧ ∀ n ∈ roots, ¬ s.Cyclic n ∧ ¬ s.HoldsForeign n
  cases : x.ShowsText ∨ ∃ cause, x.outcome = .error (.ofObstacle cause) ∧
    (proper ∨ cause ≠ .foreign → ∃ n ∈ roots, s.Obstructs n cause)

namespace Sight.Accounted

variable {x : Sight} {s : Store} {roots : List NodeId} {proper : Prop}

lemma exists_cyclic (h : x.Accounted s roots proper) (hunending : x.outcome = .error .unending) :
    ∃ n ∈ roots, s.Cyclic n := by
  rcases h.cases with ⟨text, htext⟩ | ⟨cause, hcause, hobstructs⟩
  · rw [hunending] at htext
    cases htext
  · obtain rfl : cause = .unending := Sight.ofObstacle_inj (Except.error.inj (hcause.symm.trans hunending))
    obtain ⟨n, hn, hobstructs⟩ := hobstructs (.inr (by simp))
    cases hobstructs with
    | unending hcyclic => exact ⟨n, hn, hcyclic⟩

lemma unending_iff (h : x.Accounted s roots proper) (hproper : proper)
    (htexts : ∀ n ∈ roots, ¬ s.HoldsForeign n) : x.outcome = .error .unending ↔ ∃ n ∈ roots, s.Cyclic n := by
  refine ⟨h.exists_cyclic, fun ⟨n, hn, hcyclic⟩ => ?_⟩
  rcases h.cases with hshows | ⟨cause, hcause, hobstructs⟩
  · exact ((h.showsText_iff.mp hshows).2 n hn).1 hcyclic |>.elim
  · obtain ⟨m, hm, hobstructs⟩ := hobstructs (.inl hproper)
    cases hobstructs with
    | unending => exact hcause
    | foreign hforeign => exact (htexts m hm hforeign).elim
    | untranslatable huntranslatable => exact (htexts m hm huntranslatable.holdsForeign).elim

end Sight.Accounted

namespace Session

variable {s : Session}

lemma write_node_accounted (hs : s.WellFormed) (n : NodeId) (step : String) :
    (s.write (.node n) step).Accounted s.store [n] True where
  showsText_iff := by
    rw [write_node, Sight.showsText_ofRendering, Store.rendering_ok_iff hs.store]
    simp
  cases := by
    rw [write_node]
    exact Sight.ofRendering_cases.imp_right fun ⟨cause, hcause, hfault⟩ => ⟨cause, hfault, fun _ =>
      ⟨n, List.mem_singleton_self n, Store.obstructs_of_rendering hs.store hcause (.inl rfl)⟩⟩

lemma write_deck_accounted (hs : s.WellFormed) {i : Nat} {d : Deck}
    (hd : s.workspace.deck? i = some d) (step : String) :
    (s.write (.object (.deck i)) step).Accounted s.store d.roots
      (s.workspace.settingsAt d.settings).step?.isSome := by
  have hwithin : d.Within s.store := hs.decks d (Array.mem_of_getElem? hd)
  rw [write_deck hd, deckRendering]
  refine ⟨?_, Sight.ofRendering_cases.imp_right fun ⟨cause, hcause, hfault⟩ => ⟨cause, hfault, fun hstep =>
    Deck.exists_obstructs hs.store hcause hstep⟩⟩
  rw [Sight.showsText_ofRendering, Deck.rendering_ok_iff hs.store hwithin]

end Session

/-- A node is written as a text exactly if it is not its own ancestor and everything that is written of it and of
what is below it has the type that is written in its place, and then whatever its indentation; a presentation
exactly if that holds of its preamble, its header and its document, and if its indentation is a text. Where nothing
has a wrong type, writing fails only by not ending. -/
theorem writing_fails_iff_cyclic :
    ∀ s : Session, s.Reachable →
      (∀ (n : NodeId) (step : String),
        let sight := s.write (.node n) step
        (sight.ShowsText ↔ ¬ s.store.Cyclic n ∧ ¬ s.store.HoldsForeign n) ∧
        (sight.ShowsText ∨ ∃ cause, sight.outcome = .error (.ofObstacle cause) ∧ s.store.Obstructs n cause) ∧
        (sight.outcome = .error .unending → s.store.Cyclic n) ∧
        (¬ s.store.HoldsForeign n → (sight.outcome = .error .unending ↔ s.store.Cyclic n)) ∧
        (s.store.parent? n = none → ¬ s.store.HoldsForeign n → sight.ShowsText)) ∧
      (∀ n, s.print (.node n) = s.write (.node n) standardIndent) ∧
      ∀ (i : Nat) (d : Deck) (step : String), s.workspace.deck? i = some d →
        let sight := s.write (.object (.deck i)) step
        let settings := s.workspace.settingsAt d.settings
        (sight.ShowsText ↔
          settings.step?.isSome ∧ ∀ n ∈ d.roots, ¬ s.store.Cyclic n ∧ ¬ s.store.HoldsForeign n) ∧
        (sight.ShowsText ∨ ∃ cause, sight.outcome = .error (.ofObstacle cause) ∧
          (settings.step?.isSome ∨ cause ≠ .foreign → ∃ n ∈ d.roots, s.store.Obstructs n cause)) ∧
        (sight.outcome = .error .unending → ∃ n ∈ d.roots, s.store.Cyclic n) ∧
        (settings.step?.isSome → (∀ n ∈ d.roots, ¬ s.store.HoldsForeign n) →
          (sight.outcome = .error .unending ↔ ∃ n ∈ d.roots, s.store.Cyclic n)) := by
  intro s hs
  have hwell := hs.wellFormed
  refine ⟨fun n step => ?_, fun n => rfl, fun i d step hd => ?_⟩
  · have h := Session.write_node_accounted hwell n step
    have hshows : (s.write (.node n) step).ShowsText ↔
        ¬ s.store.Cyclic n ∧ ¬ s.store.HoldsForeign n := by simpa using h.showsText_iff
    refine ⟨hshows, by simpa using h.cases, fun hends => ?_, fun htexts => ?_, fun hroot htexts => ?_⟩
    · simpa using h.exists_cyclic hends
    · simpa using h.unending_iff trivial (by simpa using htexts)
    · exact hshows.mpr ⟨Store.not_cyclic_of_free hroot, htexts⟩
  · have h := Session.write_deck_accounted hwell hd step
    exact ⟨h.showsText_iff, h.cases, h.exists_cyclic, h.unending_iff⟩

/-- Settings that are assigned a number as class make a class line that cannot be written, though the preamble
has no parent. -/
theorem writing_fails_on_foreign_class :
    ¬ ∀ s : Session, s.Reachable → ∀ (n : NodeId) (step : String),
      let sight := s.write (.node n) step
      (sight.outcome = .error .unending ↔ s.store.Cyclic n) ∧
        (¬ s.store.Cyclic n → sight.ShowsText) := by
  intro h
  let script : List Step := [.act (.load Settings.defaultPath .missing) (some "c"),
    .act (.makeDeck none (.shared "c")) (some "d"),
    .act (.assignSetting "d" "document_class" (.scalar (.int 5))) none,
    .act (.makeDeck none (.shared "c")) (some "e"),
    .act (.look "e" (.field "base_header")) (some "h")]
  let s := (runAll script {}).1
  have hs : s.Reachable := reachable_runAll script
  have hroot : s.store.parent? 11 = none := by decide
  have hforeign : s.store.HoldsForeign 11 := ⟨12, .of_parent? (by decide), by decide⟩
  have hshows := (h s hs 11 standardIndent).2 (Store.not_cyclic_of_free hroot)
  have hiff := (Session.write_node_accounted hs.wellFormed 11 standardIndent).showsText_iff
  exact ((hiff.mp hshows).2 11 List.mem_cons_self).2 hforeign

theorem writing_fails_iff_cyclic_of_frame :
    let script : List Step := [.act (.make (.frame none)) (some "f"),
      .build (.adopt "f" "f" .last) none, .act (.makeDeck none .standard) (some "d")]
    let s := (runAll script {}).1
    s.Reachable ∧ s.store.Cyclic 0 ∧ (s.write (.node 0) "\t").outcome = .error .unending ∧
      (s.write (.node 2) "\t").ShowsText ∧
      ∃ d, s.workspace.deck? 0 = some d ∧ ∀ step,
        ((s.write (.object (.deck 0)) step).outcome = .error .unending ↔
          ∃ n ∈ d.roots, s.store.Cyclic n) := by
  intro script s
  have hs : s.Reachable := reachable_runAll script
  have htexts : ∀ n, ¬ s.store.HoldsForeign n := Store.not_holdsForeign (by decide)
  have hcyclic : s.store.Cyclic 0 := ⟨0, by decide, .refl⟩
  have hnodes := (writing_fails_iff_cyclic s hs).1
  obtain ⟨d, hd⟩ : ∃ d, s.workspace.deck? 0 = some d := ⟨_, rfl⟩
  refine ⟨hs, hcyclic, ((hnodes 0 "\t").2.2.2.1 (htexts 0)).mpr hcyclic,
    (hnodes 2 "\t").2.2.2.2 (by decide) (htexts 2), d, hd, fun step => ?_⟩
  have hstep : (s.workspace.settingsAt d.settings).step?.isSome := by
    obtain rfl := Option.some.inj hd
    decide
  exact ((writing_fails_iff_cyclic s hs).2.2 0 d step hd).2.2.2 hstep fun n _ => htexts n

end SlideDeck.Script
