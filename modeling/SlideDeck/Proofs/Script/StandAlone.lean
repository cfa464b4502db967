import SlideDeck.Proofs.Script.Beside
import SlideDeck.Proofs.Script.Forwarding
import SlideDeck.Proofs.Store.DeckText

/-! A presentation is its parts: calls of a presentation do what the calls that stand for them do with a document and
a header that stand alone. -/

namespace SlideDeck.Script

namespace Parts

variable (p : Parts)

def opening (outlineTitle? : Option String) (source : SettingsSource) : List Step :=
  [.act (.makeDeck outlineTitle? source) (some p.deck),
    .act (.look p.deck (.field "document")) (some p.document),
    .act (.look p.deck (.field "custom_header")) (some p.header),
    p.blank p.slide]

/-- Makes a document and a header alone. They get their names in the same order, and the name of the presentation
stands for a truth value. -/
def standAlone : List Step :=
  [.act (.make (.environment "document" [])) (some p.deck),
    .within p.deck (some p.document) [],
    p.blank p.deck,
    .act (.make .header) (some p.header),
    p.blank p.slide]

def tie (r : Relocation) {j : ℕ} (hj : ∀ i, r.deck i ≠ j) : Tie where
  toRelocation := r
  veils name e e' := name = p.deck ∧ e = .atom (.bool true) ∧ e' = .object (.deck j)
  parted _ := False
  retitled _ := False
  loggers l l' := l' = l
  left_of_veils := by
    rintro name e e' ⟨-, rfl, -⟩
    nofun
  right_of_veils := by
    rintro name e e' ⟨-, -, rfl⟩ o heq
    cases o with
    | deck i => exact hj i (Object.deck.inj (Entity.object.inj heq)).symm
    | _ => cases heq

end Parts

def Step.SparesDeck (p : Parts) (step : Step) : Prop := p.deck ∉ step.names

section

variable {p : Parts}

lemma Parts.deck_ne_home (p : Parts) (method : Method) : p.deck ≠ p.home method := by
  obtain ⟨hdocument, hheader, -⟩ := p.deck_ne
  cases method <;> first | exact hdocument | exact hheader

lemma Parts.deck_ne_instead (p : Parts) {part : String} (h : p.deck ≠ part) (on : String) :
    p.deck ≠ p.instead part on := by
  rw [instead]
  split
  · exact h
  · next hon => exact Ne.symm hon

lemma Parts.sparesDeck_blank (p : Parts) (name : String) : (p.blank name).SparesDeck p := by
  have hdocument := p.deck_ne.1
  simp [blank, Step.SparesDeck, Step.names, Action.names, Look.names, hdocument]

lemma Action.deck_notMem_names (action : Action) (h : p.deck ∈ action.names → action.Forwarded) :
    p.deck ∉ (action.onParts p).names := by
  have hinstead := p.deck_ne_instead p.deck_ne.1
  cases action with
  | change on c => simpa [onParts, names] using hinstead on
  | look on question =>
    cases question with
    | equal other =>
      have hother : p.deck ≠ other := fun heq => h (by simp [names, Look.names, heq])
      simpa [onParts, names, Look.names, hother] using hinstead on
    | _ => simpa [onParts, names, Look.names] using hinstead on
  | _ => exact fun hmem => h hmem

lemma Construction.deck_notMem_names (construction : Construction) (hdetour : construction.detour? p = none)
    (h : p.deck ∈ construction.names → construction.Forwarded p) : p.deck ∉ (construction.onParts p).names := by
  cases construction with
  | deck outlineTitle? source => exact fun hmem => h hmem
  | adopt on node place =>
    have hnode : p.deck ≠ node := fun heq => h (by simp [names, heq]) heq.symm
    simpa [onParts, names, hnode] using p.deck_ne_instead p.deck_ne.1 on
  | child on builder => simpa [onParts, names] using p.deck_ne_instead (p.deck_ne_home _) on
  | head on =>
    have hon : ¬ on = p.deck := by simpa [detour?] using hdetour
    simpa [onParts, names] using Ne.symm hon

lemma Detour.sparesDeck_steps (detour : Detour) (subject? : Option String) {steps : List Step}
    (h : Step.AllEverywhere (Step.SparesDeck p) steps) (result? : Option String) :
    Step.AllEverywhere (Step.SparesDeck p) (detour.steps p subject? steps result?) := by
  obtain ⟨hdocument, hheader, hslide⟩ := p.deck_ne
  cases detour with
  | slide title? =>
    refine ⟨?_, ⟨?_, p.sparesDeck_blank p.slide, h⟩, trivial⟩
    · simp [Step.Everywhere, Step.SparesDeck, Step.names, Action.names]
    · simp [Step.SparesDeck, Step.names, Construction.names, hdocument, hslide]
  | head =>
    refine ⟨⟨by simp [Step.SparesDeck, Step.names, hheader], h.append ?_⟩, trivial⟩
    cases result? with
    | none => trivial
    | some name => exact ⟨⟨by simp [Step.SparesDeck, Step.names, hheader], trivial⟩, trivial⟩

mutual

lemma Step.sparesDeck_onParts : ∀ step : Step, step.Everywhere (Step.Fits p) →
    Step.AllEverywhere (Step.SparesDeck p) (step.onParts p)
  | .act action result?, hfits => ⟨action.deck_notMem_names hfits.forwarded, trivial⟩
  | .build construction result?, hfits => by
    rw [Step.onParts]
    split
    · next detour _ => exact detour.sparesDeck_steps none (show Step.AllEverywhere _ [] from trivial) result?
    · next hdetour => exact ⟨construction.deck_notMem_names hdetour hfits.forwarded, trivial⟩
  | .buildWith construction subject? steps result?, hfits => by
    have hsteps := Step.sparesDeck_allOnParts steps hfits.2
    rw [Step.onParts]
    split
    · next detour _ => exact detour.sparesDeck_steps subject? hsteps result?
    · next hdetour => exact ⟨⟨construction.deck_notMem_names hdetour hfits.1.forwarded, hsteps⟩, trivial⟩
  | .within on subject? steps, hfits =>
    ⟨⟨fun hmem => hfits.1.forwarded hmem, Step.sparesDeck_allOnParts steps hfits.2⟩, trivial⟩

lemma Step.sparesDeck_allOnParts : ∀ steps : List Step, Step.AllEverywhere (Step.Fits p) steps →
    Step.AllEverywhere (Step.SparesDeck p) (Step.allOnParts p steps)
  | [], _ => trivial
  | step :: rest, hfits =>
    (Step.sparesDeck_onParts step hfits.1).append (Step.sparesDeck_allOnParts rest hfits.2)

end

end

section

variable {p : Parts} {r : Relocation} {j : ℕ} {hj : ∀ i, r.deck i ≠ j} {s t : Session}

lemma Step.SparesDeck.allowed {step : Step} (h : step.SparesDeck p) : step.Allowed (p.tie r hj) s := by
  have hreads : ∀ name ∈ step.names, s.Reads (p.tie r hj) name :=
    fun name hname e _ => ⟨fun e' hveiled => h (hveiled.1 ▸ hname), fun _ _ => id⟩
  cases step with
  | act action result? => exact ⟨hreads, fun _ _ _ _ _ _ _ _ => id, fun _ _ _ _ _ _ _ => id⟩
  | _ => exact hreads

lemma Parts.supports_tie : (p.tie r hj).Supports fun step _ => step.SparesDeck p :=
  fun step s t h hspares => Tie.supports_allowed _ step s t h hspares.allowed

lemma Session.run_look_field {on name result : String} {o : Object} {n : NodeId} (hon : s.lookup on = .ok (.object o))
    (hmark : s.marked? o name = none) (hfield : s.ownField? o name = some (.node n)) :
    ((Step.act (.look on (.field name)) (some result)).run s).1 = s.bind (some result) (.node n) := by
  simp only [Step.run, Action.run, hon, ask, get, field?, hmark, hfield]
  rfl

def Session.withParts (s : Session) (p : Parts) (deck document header : Entity) : Session :=
  (((s.bind (some p.deck) deck).bind (some p.document) document).bind (some p.header) header).bind (some p.slide)
    (.atom (.bool true))

lemma Session.Tied.withParts (h : s.Tied (p.tie r hj) t) {document header : NodeId} {d : Deck}
    (hdocument : r.node document = d.document) (hheader : r.node header = d.header) :
    (s.withParts p (.atom (.bool true)) (.node document) (.node header)).Tied (p.tie r hj)
      (t.withParts p (.object (.deck j)) (.node d.document) (.node d.header)) := by
  rw [← hdocument, ← hheader]
  have hveiled := h.bind (some p.deck) fun name hname => .inr ⟨(Option.mem_some.mp hname).symm, rfl, rfl⟩
  have hparts := (hveiled.bind_relocate (some p.document) (.node document)).bind_relocate (some p.header) (.node header)
  exact hparts.bind_relocate (some p.slide) (.atom (.bool true))

lemma Parts.opened_withParts (p : Parts) {j : ℕ} (d : Deck) (hd : s.workspace.deck? j = some d) :
    p.Opened j d (s.withParts p (.object (.deck j)) (.node d.document) (.node d.header)) := by
  obtain ⟨hdocument, hheader, hslide⟩ := p.deck_ne
  have hne {name other : String} (h : name ≠ other) : ∀ x ∈ some other, name ≠ x := by simpa using h
  refine ⟨?_, ?_, ?_, Session.lookup_bind _ _ _, d.outlineTitle, hd⟩
  · rw [Session.withParts, Session.lookup_bind_of_ne (hne hslide), Session.lookup_bind_of_ne (hne hheader),
      Session.lookup_bind_of_ne (hne hdocument), Session.lookup_bind]
  · rw [Session.withParts, Session.lookup_bind_of_ne (hne p.document_ne.2),
      Session.lookup_bind_of_ne (hne p.document_ne.1), Session.lookup_bind]
  · rw [Session.withParts, Session.lookup_bind_of_ne (hne p.header_ne_slide), Session.lookup_bind]

lemma Parts.run_opening (p : Parts) (hs : s.Reachable) {outlineTitle? : Option String} {source : SettingsSource} {j : ℕ}
    {d : Deck} (hmake : s.makeDeck outlineTitle? source = .ok (t, .object (.deck j)))
    (hd : t.workspace.deck? j = some d) :
    (runAll (p.opening outlineTitle? source) s).1 =
      t.withParts p (.object (.deck j)) (.node d.document) (.node d.header) := by
  obtain ⟨hdocument, hheader, -⟩ := p.deck_ne
  have hmarks (name : String) : t.marked? (.deck j) name = none := by
    obtain ⟨settings, store, x, place, -, rfl, rfl, -⟩ := Session.exists_of_makeDeck hmake hd
    exact hs.bounded.marked?_eq_none (Nat.lt_irrefl _) name
  have hmade : ((Step.act (.makeDeck outlineTitle? source) (some p.deck)).run s).1 =
      t.bind (some p.deck) (.object (.deck j)) := by
    simp only [Step.run, Action.run, hmake]
    rfl
  have hfield (name : String) (n : NodeId) (hname : Session.deckField? d name = some (Entity.node n)) :
      t.ownField? (.deck j) name = some (.node n) := by
    rw [Session.ownField?, hd]
    exact hname
  have hlooked : ((Step.act (.look p.deck (.field "document")) (some p.document)).run
      (t.bind (some p.deck) (.object (.deck j)))).1 =
      (t.bind (some p.deck) (.object (.deck j))).bind (some p.document) (.node d.document) :=
    Session.run_look_field (t.lookup_bind _ _) (hmarks _) (hfield _ _ rfl)
  have hheaded : ((Step.act (.look p.deck (.field "custom_header")) (some p.header)).run
      ((t.bind (some p.deck) (.object (.deck j))).bind (some p.document) (.node d.document))).1 =
      ((t.bind (some p.deck) (.object (.deck j))).bind (some p.document) (.node d.document)).bind (some p.header)
        (.node d.header) := by
    refine Session.run_look_field ?_ (hmarks _) (hfield _ _ rfl)
    rw [Session.lookup_bind_of_ne (by simpa using hdocument)]
    exact t.lookup_bind _ _
  have hplaced : (((t.bind (some p.deck) (.object (.deck j))).bind (some p.document) (.node d.document)).bind
      (some p.header) (.node d.header)).lookup p.document = .ok (.node d.document) := by
    rw [Session.lookup_bind_of_ne (by simpa using p.document_ne.1)]
    exact Session.lookup_bind _ _ _
  obtain ⟨blanked, -, hblank⟩ := p.run_blank hplaced p.slide
  simp only [Parts.opening, runAll_cons, hmade, hlooked, hheaded, hblank]
  rfl

lemma Parts.run_standAlone (p : Parts) (s : Session) :
    let document := s.store.create (.environment "document" [])
    let header := document.1.create .header
    (runAll p.standAlone s).1 =
      (s.withStore header.1).withParts p (.atom (.bool true)) (.node document.2) (.node header.2) := by
  intro document header
  obtain ⟨hdocument, hheader, -⟩ := p.deck_ne
  -- the document has the name of the presentation for a while, so that the names come in the same order
  let u := s.withStore document.1
  let v := (u.bind (some p.deck) (.atom (.bool true))).bind (some p.document) (.node document.2)
  let w := (v.withStore header.1).bind (some p.header) (.node header.2)
  have hmade : ((Step.act (.make (.environment "document" [])) (some p.deck)).run s).1 =
      u.bind (some p.deck) (.node document.2) := rfl
  have hnamed : ((Step.within p.deck (some p.document) []).run (u.bind (some p.deck) (.node document.2))).1 =
      (u.bind (some p.deck) (.node document.2)).bind (some p.document) (.node document.2) := by
    rw [within_run (u.lookup_bind _ _) rfl]
    rfl
  have hveiled : ((p.blank p.deck).run ((u.bind (some p.deck) (.node document.2)).bind (some p.document)
      (.node document.2))).1 = v := by
    obtain ⟨_, -, hblank⟩ :=
      p.run_blank (Session.lookup_bind (u.bind (some p.deck) (.node document.2)) p.document (.node document.2)) p.deck
    rw [hblank]
    exact Session.bind_rebind (by simpa using hdocument) _ _ _
  have hheaded : ((Step.act (.make .header) (some p.header)).run v).1 = w := rfl
  have hplaced : w.lookup p.document = .ok (.node document.2) := by
    rw [Session.lookup_bind_of_ne (by simpa using p.document_ne.1)]
    exact Session.lookup_bind _ _ _
  obtain ⟨_, -, hblank⟩ := p.run_blank hplaced p.slide
  simp only [Parts.standAlone, runAll_cons, hmade, hnamed, hveiled, hheaded, hblank]
  rfl

/-- What a script leads to with a presentation, and with a document and a header that stand alone: at other places the
same nodes and trees, under the same names. -/
structure Parts.Mirror (p : Parts) (f : NodeId ↪ NodeId) (document header : NodeId) (d : Deck) (a b : Session) :
    Prop where
  lookup_document : b.lookup p.document = .ok (.node document)
  lookup_header : b.lookup p.header = .ok (.node header)
  names (name : String) (n : NodeId) :
    a.lookup name = .ok (.node n) ↔ ∃ m, f m = n ∧ b.lookup name = .ok (.node m)
  node (n : NodeId) : a.store.node (f n) = (b.store.node n).rename f
  tree (n : NodeId) : a.store.tree? (f n) = (b.store.tree? n).map (Tree.rename f)
  text (hacyclic : ¬ b.store.Cyclic document) :
    let settings := a.workspace.settingsAt d.settings
    let listings := if b.store.has? .code document = some true then settings.listingLine else ""
    (a.deckRendering d).outcome = do
      let preamble ← (a.store.rendering settings.step? d.preamble).outcome
      let own ← (b.store.rendering settings.step? header).outcome
      let body ← (b.store.rendering settings.step? document).outcome
      return preamble ++ listings ++ own ++ "\n" ++ body

lemma Session.Tied.lookup_node_iff {T : Tie} (h : s.Tied T t)
    (hveils : ∀ name e n, ¬ T.veils name e (.node n)) (name : String) (n : NodeId) :
    t.lookup name = .ok (.node n) ↔ ∃ m, T.node m = n ∧ s.lookup name = .ok (.node m) := by
  have hrel := h.rel_lookup name
  constructor
  · intro hn
    rw [hn] at hrel
    generalize s.lookup name = x at hrel
    cases hrel with
    | @ok e _ hentry =>
      obtain heq | hveiled := hentry
      · by_cases hnode : ∃ m, e = .node m
        · obtain ⟨m, rfl⟩ := hnode
          exact ⟨m, (Object.node.inj (Entity.object.inj heq)).symm, rfl⟩
        · exact absurd heq.symm (Entity.relocate_ne_node (fun m hm => hnode ⟨m, hm⟩) n)
      · exact (hveils _ _ _ hveiled).elim
  · rintro ⟨m, rfl, hm⟩
    rw [hm] at hrel
    generalize t.lookup name = y at hrel
    cases hrel with
    | ok hentry =>
      obtain rfl | hveiled := hentry
      · rfl
      · exact absurd rfl (T.left_of_veils hveiled _)

lemma Parts.Mirror.of_tied (hs : s.Reachable) (h : s.Tied (p.tie r hj) t) {d : Deck} {document header : NodeId}
    (hdocument : r.node document = d.document) (hheader : r.node header = d.header) (hopened : p.Opened j d t) :
    p.Mirror r.node document header d t s := by
  have hnames := h.lookup_node_iff (by
    rintro name e n ⟨-, -, heq⟩
    cases heq)
  have hembeds : s.store.Embeds r.node t.store := h.store
  refine ⟨?_, ?_, hnames, hembeds.node, hembeds.tree?, fun hacyclic => ?_⟩
  · obtain ⟨m, hm, hlookup⟩ := (hnames _ _).mp hopened.document
    rwa [r.node.injective (hdocument.trans hm.symm)]
  · obtain ⟨m, hm, hlookup⟩ := (hnames _ _).mp hopened.header
    rwa [r.node.injective (hheader.trans hm.symm)]
  · obtain ⟨tree, htree⟩ := Store.exists_tree hs.wellFormed.store hacyclic
    have hfound := Store.has?_of_tree? .code htree
    simp only [Session.deckRendering, Deck.rendering, Rendering.followedBy_outcome, Deck.codeRendering, ← hdocument,
      ← hheader, hembeds.rendering, hembeds.has?, hfound, Rendering.ofText,
      Deck.codeHeader_render]
    have hok (text : String) : (Except.ok text : Except Obstacle String) = pure text := rfl
    cases tree.holds .code <;> simp [hok, String.append_assoc]

end

/-- A presentation is its document and its header: whatever a script does with it and with them, also in steps inside
others and with faults, comes to the same as what stands for that with a document and a header that stand alone. The
presentation is written as its preamble, the line for listings if the document holds code, and its parts. A script
that stops inside a step shows the sessions at that point. -/
theorem presentation_is_its_parts {s t : Session} (hs : s.Reachable) (p : Parts) {outlineTitle? : Option String}
    {source : SettingsSource} {j : ℕ} {d : Deck}
    (hmake : s.makeDeck outlineTitle? source = .ok (t, .object (.deck j))) (hd : t.workspace.deck? j = some d) :
    ∃ (f : NodeId ↪ NodeId) (document header : NodeId), f document = d.document ∧ f header = d.header ∧
      ∀ steps, Step.AllEverywhere (Step.Fits p) steps →
        let a := runAll steps (runAll (p.opening outlineTitle? source) s).1
        let b := runAll (Step.allOnParts p steps) (runAll p.standAlone s).1
        Step.AllAlike p steps a.2 b.2 ∧ p.Opened j d a.1 ∧ p.Mirror f document header d a.1 b.1 := by
  obtain ⟨r, hj, hdocument, hheader, htied⟩ := hs.tied_makeDeck hmake hd
  have hopening := p.run_opening hs hmake hd
  have hstandAlone := p.run_standAlone s
  refine ⟨r.node, _, _, hdocument, hheader, fun steps hfits => ?_⟩
  intro a b
  have hstart : (runAll p.standAlone s).1.Tied (p.tie r hj) (runAll (p.opening outlineTitle? source) s).1 := by
    rw [hopening, hstandAlone]
    exact (htied (p.tie r hj) rfl fun _ => rfl).withParts hdocument hheader
  have hopened : p.Opened j d (runAll (p.opening outlineTitle? source) s).1 := by
    rw [hopening]
    exact Parts.opened_withParts p d hd
  obtain ⟨hend, halike, hopened⟩ := runAll_onParts steps (hs.runAll _) hopened hfits
  have hspares := Step.AllEverywhere.throughout (Q := fun step _ => step.SparesDeck p) (fun _ _ => id) _
    (runAll p.standAlone s).1 (Step.sparesDeck_allOnParts steps hfits)
  obtain ⟨htied, hanswers⟩ := runAll_level (fun _ _ => .rfl) Parts.supports_tie _ hstart hspares
  rw [hend] at htied
  rw [hanswers] at halike
  exact ⟨halike, hopened, .of_tied ((hs.runAll _).runAll _) htied hdocument hheader hopened⟩

theorem talk_is_its_parts :
    let p : Parts := ⟨"d", "b", "h", "x", by decide⟩
    let steps : List Step := [
      .buildWith (.child "d" (.frame (some "Start"))) (some "f")
        [.build (.child "f" (.code "python" none)) none, .build (.child "b" (.comment "inside")) none] (some "s"),
      .buildWith (.head "d") (some "k") [.build (.child "d" (.package "tikz")) none, .act (.fail "stop") none] none,
      .build (.adopt "d" "s" .first) none,
      .act (.look "d" (.has "code")) none]
    let a := runAll steps (runAll (p.opening none .standard) {}).1
    let b := runAll (Step.allOnParts p steps) (runAll p.standAlone {}).1
    let d : Deck := ⟨.null, 0, 0, 1, 9⟩
    a.2.map (·.fault?.isSome) = [false, true, true, false] ∧ Step.AllAlike p steps a.2 b.2 ∧ p.Opened 0 d a.1 ∧
      ∃ f document header, p.Mirror f document header d a.1 b.1 := by
  intro p steps a b d
  obtain ⟨t, hmake, hd⟩ : ∃ t, Session.makeDeck {} none .standard = .ok (t, .object (.deck 0)) ∧
      t.workspace.deck? 0 = some d := ⟨_, rfl, rfl⟩
  obtain ⟨f, document, header, -, -, hmirror⟩ := presentation_is_its_parts (reachable_runAll []) p hmake hd
  have hfits : Step.AllEverywhere (Step.Fits p) steps := by
    refine ⟨⟨?slide, ?code, ?comment, trivial⟩, ⟨?head, ?package, ?fail, trivial⟩, ?adopt, ?has, trivial⟩
    case code | comment | fail => exact ⟨by decide, fun h => absurd h (by decide)⟩
    case slide | package => exact ⟨by decide, fun _ => rfl⟩
    case head | has => exact ⟨by decide, fun _ => trivial⟩
    case adopt => exact ⟨by decide, fun _ => show "s" ≠ "d" by decide⟩
  obtain ⟨halike, hopened, hmirror⟩ := hmirror steps hfits
  exact ⟨by decide +kernel, halike, hopened, f, document, header, hmirror⟩

end SlideDeck.Script
