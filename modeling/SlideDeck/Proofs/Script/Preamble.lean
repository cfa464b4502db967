import SlideDeck.Proofs.Script.History
import SlideDeck.Proofs.Script.Opening
import SlideDeck.Proofs.Script.SharedSettings
import SlideDeck.Proofs.Settings.Stated
import SlideDeck.Proofs.Store.Preamble

/-! The text of a presentation starts with the settings that it is built from, whatever is built in it later. -/

namespace SlideDeck.Script

/-- A new presentation gets these settings from the source. -/
def Session.Offers (s : Session) (source : SettingsSource) (c : Settings) : Prop :=
  ∃ t place, s.takeSettings source = .ok (t, place) ∧ t.workspace.settingsAt place = c.loose

inductive Step.MakesDeck (outlineTitle? : Option String) (source : SettingsSource) : Step → Prop
  | act (result? : Option String) : MakesDeck outlineTitle? source (.act (.makeDeck outlineTitle? source) result?)
  | build (result? : Option String) : MakesDeck outlineTitle? source (.build (.deck outlineTitle? source) result?)
  | buildWith (subject? : Option String) (steps : List Step) (result? : Option String) :
    MakesDeck outlineTitle? source (.buildWith (.deck outlineTitle? source) subject? steps result?)

def Step.builder? : Step → Option String
  | .act (.change on (.headings _ _)) _ | .act (.change on (.setTitle _ _ _ _)) _
  | .build (.child on _) _ | .build (.adopt on _ _) _ | .build (.head on) _
  | .buildWith (.child on _) _ _ _ | .buildWith (.adopt on _ _) _ _ _ | .buildWith (.head on) _ _ _ => some on
  | _ => none

/-- A presentation builds something in its document or its header. -/
def Step.CallsBuilder (i : ℕ) (step : Step) (s : Session) : Prop :=
  ∃ on, step.builder? = some on ∧ s.lookup on = .ok (.object (.deck i))

section

variable {s t u : Session} {source : SettingsSource} {c : Settings} {outlineTitle? : Option String} {i : ℕ} {d : Deck}
  {preamble : Tree}

lemma Session.offers_data (s : Session) (c : Settings) : s.Offers (.data c.datum) c := by
  have hcheck := (Settings.check_eq_ok_iff c.datum_isJson).mpr c.statedBy_datum
  refine ⟨{ s with workspace := (s.workspace.addSettings c).1 }, s.workspace.settings.size, ?_, ?_⟩
  · simp only [takeSettings, hcheck]
    rfl
  · simp [Workspace.addSettings, Workspace.settingsAt]

lemma Session.Offers.exists_makeDeck (h : s.Offers source c) (hs : s.WellFormed) (outlineTitle? : Option String) :
    ∃ t i d preamble, s.makeDeck outlineTitle? source = .ok (t, .object (.deck i)) ∧ s.workspace.deck? i = none ∧
      t.workspace.deck? i = some d ∧ t.workspace.settingsAt d.settings = c.loose ∧ d.preamble ≠ d.header ∧
      d.Blank t.store c outlineTitle? preamble := by
  obtain ⟨u, place, htake, hplace⟩ := h
  have hu := takeSettings_eq htake
  have hstore : s.store.WellFormed := hs.store
  rw [← store_takeSettings htake] at hstore
  obtain ⟨store, d, preamble, hbuild, rfl, hblank⟩ := Deck.exists_build hstore c place outlineTitle?
  let w : Workspace := { u.workspace with store, decks := u.workspace.decks.push d }
  have hadd : u.workspace.addDeck outlineTitle? d.settings = .ok (w, u.workspace.decks.size) := by
    rw [Workspace.addDeck, hplace]
    change (Deck.build u.store _ _ _ >>= _) = _
    rw [hbuild]
    rfl
  refine ⟨{ u with workspace := w }, u.workspace.decks.size, d, preamble, ?_, ?_, ?_, hplace,
    Deck.preamble_ne_header hbuild, hblank⟩
  · simp only [makeDeck, htake, Bind.bind, Except.bind, hadd]
  · rw [hu]
    simp [Workspace.deck?]
  · simp [w, Workspace.deck?]

lemma Session.start_deck (h : s.makeDeck outlineTitle? source = .ok (t, .object (.deck i))) :
    Construction.start s (.deck outlineTitle? source) =
      .ok (t, { subject := .object (.deck i), target? := none }) := by
  simp only [Construction.start, h, Bind.bind, Except.bind]

lemma Step.MakesDeck.spares {inside : NodeId → Prop} {place : ℕ} {P : Step → Session → Prop} {making : Step}
    (hmaking : making.MakesDeck outlineTitle? source)
    (hmake : s.makeDeck outlineTitle? source = .ok (t, .object (.deck i)))
    (hP : ∀ step u, t.Spares inside place u → P step u → step.Bypasses inside place u)
    (hsteps : making.Throughout P s) :
    (∀ u ∈ making.inside s, t.Spares inside place u) ∧ t.Spares inside place (making.run s).1 := by
  have hyields := Step.yields_spares inside place
  have hstart := Session.start_deck hmake
  cases hmaking with
  | act result? =>
    have hrun : Action.run s (.makeDeck outlineTitle? source) =
        { session := t, outcome := .ok (.object (.deck i)) } := by
      rw [Action.run, hmake]
      rfl
    rw [Step.run, hrun]
    exact ⟨by simp [Step.inside], t.spares_bind _ _⟩
  | build result? =>
    have hrun : Construction.run s (.deck outlineTitle? source) =
        { session := t, outcome := .ok (.object (.deck i)) } := by
      simp only [Construction.run, hstart, Pending.finish]
    rw [Step.run, hrun]
    exact ⟨by simp [Step.inside], t.spares_bind _ _⟩
  | buildWith subject? steps result? =>
    -- the steps inside are run when the presentation is there
    have hbound : t.Spares inside place (t.bind subject? (.object (.deck i))) := t.spares_bind _ _
    have hquiet := Step.AllThroughout.narrow hyields hP steps hbound (hsteps.2 _ _ hstart)
    have hran := hbound.trans (Step.AllThroughout.run hyields steps _ hquiet)
    refine ⟨fun u hu => ?_, ?_⟩
    · rw [Step.inside, hstart] at hu
      exact hbound.trans (Step.AllThroughout.inside hyields steps _ hquiet u hu)
    · rcases Step.buildWith_cases hstart subject? result? steps with ⟨fault, hrun, -⟩ | ⟨u, hfinish, hrun, -⟩
      · rw [hrun]
        exact hran
      · cases hfinish
        rw [hrun]
        exact hran.trans (Session.spares_bind _ _ _)

lemma Session.mem_containerOf_deck {on : String} {method : Method} (hon : s.lookup on = .ok (.object (.deck i)))
    (hd : s.workspace.deck? i = some d) {m : NodeId} (hm : m ∈ s.containerOf on method) :
    m = d.header ∨ m = d.document := by
  simp only [containerOf, hon, containerFor, hd] at hm
  split at hm
  · exact .inl (by simpa [Except.toOption] using hm)
  · exact .inl (by simpa [Except.toOption] using hm)
  · exact .inl (by simpa [Except.toOption] using hm)
  · split at hm
    · exact .inr (by simpa [Except.toOption] using hm)
    · simp [noMethod, missing, Except.toOption] at hm

lemma Step.CallsBuilder.bypasses {inside : NodeId → Prop} {place : ℕ} {step : Step} (h : step.CallsBuilder i s)
    (hd : s.workspace.deck? i = some d) (hheader : ¬ inside d.header) (hdocument : ¬ inside d.document) :
    step.Bypasses inside place s := by
  obtain ⟨on, hbuilder, hon⟩ := h
  have hcontainer : ∀ method, ∀ m ∈ s.containerOf on method, ¬ inside m := by
    intro method m hm
    rcases Session.mem_containerOf_deck hon hd hm with rfl | rfl
    · exact hheader
    · exact hdocument
  have htitled : ∀ m ∈ s.titledTrees on, ¬ inside m := by
    simp [Session.titledTrees, hon, hd, hheader, hdocument]
  rw [Step.builder?.eq_def] at hbuilder
  split at hbuilder <;> cases hbuilder
  · exact hcontainer .headings
  · exact htitled
  · exact hcontainer _
  · exact hcontainer _
  · exact List.forall_mem_nil _
  · exact hcontainer _
  · exact hcontainer _
  · exact List.forall_mem_nil _

lemma Session.Spares.exists_rest (h : t.Spares (t.store.Climbs · d.preamble) d.settings u) (ht : t.Reachable)
    (hd : t.workspace.deck? i = some d) (hsettings : t.workspace.settingsAt d.settings = c.loose)
    (hblank : d.Blank t.store c outlineTitle? preamble) {step text : String}
    (htext : (u.write (.object (.deck i)) step).outcome = .ok (.value (.text text))) :
    ∃ rest, text = c.preambleText outlineTitle? ++ rest := by
  have hw := ht.wellFormed
  obtain ⟨title?, hd'⟩ := h.decks hd
  have hagrees := h.agreesOn hw (fun m hm => hm.lt_size (hw.deck? hd).preamble.lt_size) fun m c hm hc => .head hc hm
  obtain ⟨-, halike⟩ := h.settings (ht.bounded.settings d (Array.mem_of_getElem? hd))
  have hstep : (u.workspace.settingsAt d.settings).step? = some c.indent.shown := by
    rw [halike.step?, hsettings, c.step?_loose]
  obtain ⟨first, rest, hfirst, rfl⟩ := Deck.exists_rest (Session.deckRendering_of_write hd' htext)
  rw [hstep] at hfirst
  have hsame := hagrees.rendering h.size_le (some c.indent.shown) (m := d.preamble) .refl
  rw [hsame, hblank.preamble_outcome hw.store] at hfirst
  cases hfirst
  exact ⟨rest, rfl⟩

end

/-- A presentation is written with the settings that it is built from at the start: the line of its class, the
packages in their order, and the outline that is repeated at the start of each section exactly if a title is given for
it. All settings can be given as data. When the presentation has been made nothing else is written but an empty
document; and whatever it builds later, with steps inside that leave its preamble and its settings alone, each text of
it starts in this way. -/
theorem preamble_states_settings {s : Session} (hs : s.Reachable) : (∀ c, s.Offers (.data c.datum) c) ∧
    ∀ source c outlineTitle?, s.Offers source c →
      ∃ t i d, s.makeDeck outlineTitle? source = .ok (t, .object (.deck i)) ∧ t.workspace.deck? i = some d ∧
        (∀ step, (t.write (.object (.deck i)) step).outcome = .ok (.value (.text
          (c.preambleText outlineTitle? ++ "\n\\begin\x7bdocument\x7d\n\\end\x7bdocument\x7d\n")))) ∧
        ∀ making calls, making.MakesDeck outlineTitle? source →
          Throughout (fun step u => step.CallsBuilder i u ∨ step.Bypasses (t.store.Climbs · d.preamble) d.settings u)
            (making :: calls) s →
          ∀ u ∈ sessions (making :: calls) s, ∀ step text,
            (u.write (.object (.deck i)) step).outcome = .ok (.value (.text text)) →
              ∃ rest, text = c.preambleText outlineTitle? ++ rest := by
  refine ⟨s.offers_data, fun source c outlineTitle? hsource => ?_⟩
  obtain ⟨t, i, d, preamble, hmake, hnew, hd, hsettings, happart, hblank⟩ :=
    hsource.exists_makeDeck hs.wellFormed outlineTitle?
  have ht : t.Reachable :=
    hs.start (x := { subject := .object (.deck i), target? := none }) (Session.start_deck hmake) none
  have hwritten := hblank.outcome ht.wellFormed.store
  rw [← hsettings] at hwritten
  refine ⟨t, i, d, hmake, hd, fun step => Session.write_of_deckRendering hd step hwritten,
    fun making calls hmaking hcalls u hu step text htext => ?_⟩
  have hyields := Step.yields_spares (t.store.Climbs · d.preamble) d.settings
  obtain ⟨hheader, hdocument⟩ := hblank.not_climbs (ht.wellFormed.deck? hd) happart
  have hbypasses : ∀ (step : Step) (u : Session), t.Spares (t.store.Climbs · d.preamble) d.settings u →
      step.CallsBuilder i u ∨ step.Bypasses (t.store.Climbs · d.preamble) d.settings u →
      step.Bypasses (t.store.Climbs · d.preamble) d.settings u := by
    rintro step u hu (hcall | hbypass)
    · obtain ⟨title?, hd'⟩ := hu.decks hd
      exact hcall.bypasses hd' hheader hdocument
    · exact hbypass
  obtain ⟨hinside, hmade⟩ := hmaking.spares hmake hbypasses hcalls.1
  rw [sessions, List.cons_append, List.mem_cons, List.mem_append] at hu
  rcases hu with rfl | hu | hu
  · -- the presentation has not been made yet
    simp only [Session.write_eq, hnew] at htext
    exact (Session.missing_ne_ok _ _ _ _ htext).elim
  · exact (hinside u hu).exists_rest ht hd hsettings hblank htext
  · have hquiet := Throughout.narrow hyields hbypasses calls hmade hcalls.2
    exact (hmade.trans (Throughout.sessions hyields calls hquiet u hu)).exists_rest ht hd hsettings hblank htext

theorem preamble_states_settings_of_lecture :
    let c : Settings := {
      classOptions := ["aspectratio=169", "12pt"]
      indent := "\t"
      packages := [{ name := "lmodern" },
        { name := "babel", options := ["french"], comment? := some ↑"the language" }] }
    let making : Step := .act (.makeDeck (some "Outline") (.data c.datum)) (some "d")
    let text : Construction := .child "f" (.appendText "Text" none)
    let calls : List Step := [.act (.change "d" (.setTitle "Title" "Author" none none)) none,
      .buildWith (.child "d" (.frame (some "First"))) (some "f") [.build text none] none]
    let front := "\\documentclass[aspectratio=169, 12pt]\x7bbeamer\x7d\n\n" ++
      "% = standard packages for 21st-century LaTeX =\n" ++
      "\\usepackage\x7blmodern\x7d\n\\usepackage[french]\x7bbabel\x7d % the language\n\n" ++
      "% = additional configuration =\n" ++
      "\\AtBeginSection\x7b\n\t\\begin\x7bframe\x7d\x7bOutline\x7d\n" ++
      "\t\t\\tableofcontents[currentsection]\n\t\\end\x7bframe\x7d\n\x7d\n"
    ∃ rest, ((runAll (making :: calls) {}).1.write (.object (.deck 0)) "").outcome =
      .ok (.value (.text (front ++ rest))) := by
  intro c making text calls front
  obtain ⟨hoffers, hmade⟩ := preamble_states_settings (s := {}) ⟨[], .refl⟩
  obtain ⟨t, i, d, hmake, hd, -, hlater⟩ := hmade (.data c.datum) c (some "Outline") (hoffers c)
  have ht : (Action.run {} (.makeDeck (some "Outline") (.data c.datum))).session = t := by
    rw [Action.run, hmake]
    rfl
  subst ht
  let t := (Action.run {} (.makeDeck (some "Outline") (.data c.datum))).session
  have hdecks : t.workspace.decks = #[⟨.text "Outline", 0, 0, 1, 12⟩] := by decide +kernel
  rw [Workspace.deck?, hdecks] at hd
  obtain ⟨hi, rfl⟩ := Array.getElem?_eq_some_iff.mp hd
  obtain rfl : i = 0 := Nat.lt_one_iff.mp hi
  have hcalls : Throughout (fun step u => Step.CallsBuilder 0 step u ∨
      Step.Bypasses (t.store.Climbs · 1) 0 step u) (making :: calls) {} := by
    refine ⟨.inr (List.forall_mem_nil _), .inl ⟨"d", rfl, rfl⟩, ⟨.inl ⟨"d", rfl, rfl⟩, fun u p hstart => ?_⟩, trivial⟩
    -- the slide is made after all that stands in the preamble
    obtain ⟨htargets, hfree⟩ : text.targets (u.bind (some "f") p.subject) = [21] ∧ t.store.parent? 21 = none := by
      obtain ⟨rfl, rfl⟩ := Prod.mk.inj (Except.ok.inj (hstart.symm.trans (child_start (c := 0) rfl rfl)))
      exact ⟨by decide +kernel, by decide +kernel⟩
    refine ⟨.inr fun m hm hclimbs => ?_, fun _ => trivial⟩
    obtain rfl := List.mem_singleton.mp (htargets ▸ hm)
    cases hclimbs.eq_of_free hfree
  have hu := runAll_mem_sessions (making :: calls) {}
  obtain ⟨written, hwritten⟩ : ∃ written,
      ((runAll (making :: calls) {}).1.write (.object (.deck 0)) "").text? = some written :=
    Option.isSome_iff_exists.mp (by decide +kernel)
  have houtcome := Sight.outcome_of_text? hwritten
  obtain ⟨rest, rfl⟩ := hlater making calls (.act _) hcalls _ hu "" written houtcome
  have hfront : c.preambleText (some "Outline") = front := by decide +kernel
  exact ⟨rest, hfront ▸ houtcome⟩

end SlideDeck.Script
