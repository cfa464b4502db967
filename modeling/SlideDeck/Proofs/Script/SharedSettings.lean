import SlideDeck.Proofs.Script.InPlace
import SlideDeck.Proofs.Script.Retaining
import SlideDeck.Proofs.Script.SettingsApart
import SlideDeck.Proofs.Store.DeckText

/-! When settings are read: once when a presentation is built, for its preamble, and whenever it is written, for the
indentation and the comment on listings. -/

namespace SlideDeck

/-- Trees that differ only in where their nodes are. -/
def Tree.Isomorphic (t u : Tree) : Prop := ∃ (v : Tree) (f g : NodeId ↪ NodeId), t = v.rename f ∧ u = v.rename g

lemma Deck.exists_preamble (settings : LooseSettings) (outlineTitle? : Option String) :
    ∃ tree : Tree, ∀ (s t : Store) (place : ℕ) (d : Deck), build s settings place outlineTitle? = .ok (t, d) →
      ∃ f : NodeId ↪ NodeId, t.tree? d.preamble = some (tree.rename f) := by
  have hfirst (s : Store) (place : ℕ) := embeds_build (.empty s) settings 0 place outlineTitle?
  cases hbuilt : build {} settings 0 outlineTitle? with
  | error cause =>
    refine ⟨.node 0 { content := .header } [], fun s t place d h => ?_⟩
    have hagree := hfirst s place
    rw [hbuilt, h] at hagree
    cases hagree
  | ok built =>
    obtain ⟨store, e⟩ := built
    obtain ⟨hedits, -⟩ := build_edits hbuilt
    have hacyclic : ¬ store.Cyclic e.preamble := by
      rw [hedits.cyclic_iff Store.wellFormed_empty]
      exact Store.not_cyclic_of_free rfl
    obtain ⟨tree, htree⟩ := Store.exists_tree (hedits.wellFormed Store.wellFormed_empty) hacyclic
    refine ⟨tree, fun s t place d h => ⟨s.behind, ?_⟩⟩
    have hagree := hfirst s place
    rw [hbuilt, h] at hagree
    cases hagree with
    | ok hboth =>
      obtain ⟨hembeds, hdeck, -⟩ := hboth
      simp only at hembeds hdeck
      rw [hdeck, hembeds.tree?, htree]
      rfl

namespace Script

def Tie.apart (parted retitled : ℕ → Prop) : Tie where
  toRelocation := .same
  veils _ _ _ := False
  parted := parted
  retitled := retitled
  loggers l l' := l' = l
  left_of_veils := @left_of_unveiled
  right_of_veils := @right_of_unveiled _

/-- A step neither uses the settings at a place by a name, nor shows them. -/
def Step.LeavesSettings (place : ℕ) (step : Step) (s : Session) : Prop :=
  (∀ name ∈ step.names, s.lookup name ≠ .ok (.object (.settings place))) ∧
    ∀ on question result? e, step = .act (.look on question) result? → s.lookup on = .ok e →
      (s.look e question).outcome ≠ .ok (.object (.settings place))

/-- A step does not ask for the title of the outline of a presentation. -/
def Step.LeavesTitle (j : ℕ) (step : Step) (s : Session) : Prop :=
  ∀ on result?, step = .act (.look on (.field "toctitle")) result? → s.lookup on ≠ .ok (.object (.deck j))

section

variable {s : Session} {j place : ℕ} {step : Step}

lemma Step.LeavesSettings.allowed (h : step.LeavesSettings place s) :
    step.Allowed (.apart (· = place) fun _ => False) s := by
  have hreads : ∀ name ∈ step.names, s.Reads (.apart (· = place) fun _ => False) name := by
    intro name hname e he
    refine ⟨fun _ => id, fun i hi hplace => ?_⟩
    obtain rfl : i = place := hplace
    exact h.1 name hname (hi ▸ he)
  cases step with
  | act action result? =>
    refine ⟨hreads, fun _ _ _ _ _ _ _ _ => id, fun on question heq e he i hi hplace => ?_⟩
    obtain rfl : i = place := hplace
    exact h.2 on question result? e (by rw [heq]) he hi
  | _ => exact hreads

lemma Step.LeavesTitle.allowed (h : step.LeavesTitle j s) : step.Allowed (.apart (fun _ => False) (· = j)) s := by
  have hreads (name : String) : s.Reads (.apart (fun _ => False) (· = j)) name :=
    fun _ _ => ⟨fun _ => id, fun _ _ => id⟩
  cases step with
  | act action result? =>
    refine ⟨fun name _ => hreads name, fun on name heq o ho i hi htitle hj => ?_, fun _ _ _ _ _ _ _ => id⟩
    obtain rfl : i = j := hj
    subst hi htitle heq
    exact h on result? rfl ho
  | _ => exact fun name _ => hreads name

end

lemma Session.Tied.later {parted retitled : ℕ → Prop} {s t : Session} (h : s.Tied (.apart parted retitled) t)
    {steps : List Step} (hsteps : Throughout (Step.Allowed (.apart parted retitled)) steps s) :
    Step.SameAnswers Eq steps (runAll steps s).2 (runAll steps t).2 ∧
      ∀ e indent, (runAll steps t).1.write e indent = (runAll steps s).1.write e indent := by
  have hadmits : (Tie.apart parted retitled).Admits Eq := by
    rintro setup _ l _ rfl rfl
    exact ⟨rfl, .inl rfl⟩
  obtain ⟨hend, hanswers⟩ := runAll_tandem hadmits (Tie.supports_allowed _) steps steps h
    (.refl (fun _ => rfl) steps) hsteps
  refine ⟨hanswers.mono (fun log log' hlogs => ?_) steps, fun e indent => ?_⟩
  · obtain ⟨records, l, _, rfl, rfl, rfl⟩ := hlogs
    rfl
  · have hwrite := hend.write e indent
    rwa [show (Tie.apart parted retitled).toRelocation = .same from rfl, Entity.relocate_same] at hwrite

section

variable {s t : Session} {j : ℕ} {d : Deck}

lemma Session.tied_setOutlineTitle (s : Session) (j : ℕ) (title : Atom) :
    s.Tied (.apart (fun _ => False) (· = j)) (s.setOutlineTitle j title) := by
  have hself : s.Tied (.apart (fun _ => False) (· = j)) s := .of_logger rfl rfl
  refine { hself with decks := ⟨fun k => ?_, fun i => ?_⟩ }
  · simp only [setOutlineTitle, Array.size_modify]
    rfl
  · change Option.Rel _ s.workspace.decks[i]?
      (s.workspace.decks.modify j fun deck => { deck with outlineTitle := title })[i]?
    rw [Array.getElem?_modify]
    split
    · next heq =>
      cases hd : s.workspace.decks[i]? with
      | none => exact .none
      | some d => exact .some ⟨rfl, .inr heq.symm⟩
    · cases hd : s.workspace.decks[i]? with
      | none => exact .none
      | some d => exact .some ⟨rfl, .inl rfl⟩

lemma Action.session_run_title {on : String} (hon : s.lookup on = .ok (.object (.deck j))) (value : Atom) :
    (Action.run s (.assign on "toctitle" value)).session = s.setOutlineTitle j value := by
  simp only [Action.run, hon]
  rfl

def preambleFields : List String := ["document_class", "class_options", "packages"]

lemma Action.session_run_setting {field on : String} (hfield : field ∈ preambleFields) (value : Datum)
    (hd : s.workspace.deck? j = some d) (hon : s.lookup on = .ok (.object (.deck j))) :
    (Action.run s (.assignSetting on field value)).session = s ∨
      ∃ x, (s.workspace.settingsAt d.settings).WritesAlike x ∧
        (Action.run s (.assignSetting on field value)).session = { s with workspace := { s.workspace with
          settings := s.workspace.settings.setIfInBounds d.settings x } } := by
  have hne : field ≠ "indent" ∧ field ≠ "code_package_comment" := by
    constructor <;> rintro rfl <;> simp [preambleFields] at hfield
  have hrun : (Action.run s (.assignSetting on field value)).session =
      (Effect.ofResult s
        ((s.assignSetting (.object (.deck j)) field value).bind fun t => .ok (t, .nothing))).session := by
    simp only [Action.run, hon]
    rfl
  rw [hrun]
  simp only [Session.assignSetting, hd]
  split
  · next x hassign => exact .inr ⟨x, LooseSettings.writesAlike_assign? hassign hne.1 hne.2, rfl⟩
  · exact .inl rfl

lemma Session.tied_setSettings {place : ℕ} {x : LooseSettings} (hx : (s.workspace.settingsAt place).WritesAlike x) :
    s.Tied (.apart (· = place) fun _ => False) { s with workspace := { s.workspace with
      settings := s.workspace.settings.setIfInBounds place x } } := by
  have hself : s.Tied (.apart (· = place) fun _ => False) s := .of_logger rfl rfl
  refine { hself with settings := ⟨fun k => ?_, fun i => ?_⟩ }
  · simp only [Array.size_setIfInBounds]
    rfl
  · change Option.Rel _ s.workspace.settings[i]? (s.workspace.settings.setIfInBounds place x)[i]?
    rw [Array.getElem?_setIfInBounds]
    split
    · next heq =>
      subst heq
      split
      · next hi =>
        have hat : s.workspace.settings[place]? = some (s.workspace.settingsAt place) := by
          rw [Workspace.settingsAt, Array.getD_eq_getD_getElem?, Array.getElem?_eq_getElem hi]
          rfl
        rw [hat]
        exact .some ⟨hx, .inr rfl⟩
      · next hi =>
        rw [Array.getElem?_eq_none (Nat.le_of_not_lt hi)]
        exact .none
    · cases hat : s.workspace.settings[i]? with
      | none => exact .none
      | some y => exact .some ⟨.refl y, .inl rfl⟩

end

lemma Session.Spares.deckRendering {s t : Session} {d : Deck} (h : s.Spares (s.InDeck d) d.settings t)
    (hs : s.WellFormed) (hd : d.Within s.store) (hsettings : d.settings < s.workspace.settings.size) :
    t.deckRendering d = s.deckRendering d := by
  have hlt : ∀ r ∈ d.roots, r < s.store.size := by
    simp only [Deck.roots, List.forall_mem_cons]
    exact ⟨hd.preamble.lt_size, hd.header.lt_size, hd.document.lt_size, List.forall_mem_nil _⟩
  have hagrees : s.store.AgreesOn t.store (s.InDeck d) := by
    refine h.agreesOn hs ?_ ?_
    · rintro m ⟨r, hr, hm⟩
      exact hm.lt_size (hlt r hr)
    · rintro m c ⟨r, hr, hm⟩ hc
      exact ⟨r, hr, .head hc hm⟩
  have hroot {r : NodeId} (hr : r ∈ d.roots) : s.InDeck d r := ⟨r, hr, .refl⟩
  have hread := (h.settings hsettings).2
  have hpreamble : s.InDeck d d.preamble := hroot (by simp [Deck.roots])
  have hheader : s.InDeck d d.header := hroot (by simp [Deck.roots])
  have hdocument : s.InDeck d d.document := hroot (by simp [Deck.roots])
  simp only [Session.deckRendering, Deck.rendering, Deck.codeRendering, hread.step?, hread.comment?,
    hagrees.rendering h.size_le _ hpreamble, hagrees.rendering h.size_le _ hheader,
    hagrees.rendering h.size_le _ hdocument, hagrees.has? h.size_le _ hdocument]

lemma Session.Builds.build {s t : Session} {outlineTitle? : Option String} {source : SettingsSource} {d : Deck}
    (h : s.Builds outlineTitle? source t d) : ∃ store place,
      Deck.build store (t.workspace.settingsAt d.settings) place outlineTitle? = .ok (t.store, d) := by
  obtain ⟨i, hmake, hd⟩ := h
  obtain ⟨u, place, store, e, -, hbuild, rfl, hx⟩ := Session.exists_build_of_makeDeck hmake
  cases hx
  obtain rfl : e = d := by simpa [Workspace.deck?] using hd
  exact ⟨u.store, place, Deck.settings_of_build hbuild ▸ hbuild⟩

lemma Session.isomorphic_preambles {s₁ t₁ s₂ t₂ : Session} {outlineTitle? : Option String}
    {source₁ source₂ : SettingsSource} {d₁ d₂ : Deck} (h₁ : s₁.Builds outlineTitle? source₁ t₁ d₁)
    (h₂ : s₂.Builds outlineTitle? source₂ t₂ d₂)
    (hsame : t₂.workspace.settingsAt d₂.settings = t₁.workspace.settingsAt d₁.settings) :
    ∃ tree₁ tree₂, t₁.store.tree? d₁.preamble = some tree₁ ∧ t₂.store.tree? d₂.preamble = some tree₂ ∧
      tree₁.Isomorphic tree₂ := by
  obtain ⟨store₁, place₁, hbuild₁⟩ := h₁.build
  obtain ⟨store₂, place₂, hbuild₂⟩ := h₂.build
  obtain ⟨tree, htree⟩ := Deck.exists_preamble (t₁.workspace.settingsAt d₁.settings) outlineTitle?
  rw [hsame] at hbuild₂
  obtain ⟨f, hf⟩ := htree _ _ _ _ hbuild₁
  obtain ⟨g, hg⟩ := htree _ _ _ _ hbuild₂
  exact ⟨_, _, hf, hg, tree, f, g, rfl, rfl⟩

/-- After an action all steps answer as they would without it, and whatever is then written is the same. -/
def Session.SameLater (s : Session) (action : Action) (steps : List Step) : Prop :=
  let t := (action.run s).session
  Step.SameAnswers Eq steps (runAll steps s).2 (runAll steps t).2 ∧
    ∀ e indent, (runAll steps t).1.write e indent = (runAll steps s).1.write e indent

/-- At every point of the steps a presentation is written as it would be if an action had not been taken before. -/
def Session.SameDeck (s : Session) (j : ℕ) (action : Action) (steps : List Step) : Prop :=
  List.Forall₂ (Session.WritesDeckAlike j) (sessions steps s) (sessions steps (action.run s).session)

/-- The nodes that are in the trees of a presentation at some point of a run. -/
def EverInDeck (steps : List Step) (s : Session) (d : Deck) (m : NodeId) : Prop := ∃ u ∈ sessions steps s, u.InDeck d m

lemma not_everInDeck {steps : List Step} {s : Session} {d : Deck} {m : NodeId}
    (hfree : ∀ u ∈ sessions steps s, u.store.parent? m = none) (hroot : m ∉ d.roots) : ¬ EverInDeck steps s d m := by
  rintro ⟨u, hu, hm⟩
  exact Session.not_inDeck_of_free (hfree u hu) hroot hm

/-- What a step makes a presentation from says the same about the preamble in two sessions, or this preamble is not in
a region. -/
def Step.BuildsOutside (inside : NodeId → Prop) (step : Step) (s t : Session) : Prop :=
  ∀ outlineTitle? source, step.deck? = some (outlineTitle?, source) → s.BuildsOutside inside t outlineTitle? source

lemma Step.buildsOutside_of_deck?_eq_none {step : Step} (h : step.deck? = none) (inside : NodeId → Prop) (s t : Session) :
    step.BuildsOutside inside s t := by
  intro outlineTitle? source hmakes
  rw [h] at hmakes
  cases hmakes

section

variable {s : Session} {j k : ℕ} {d e : Deck} {on : String} {steps : List Step}

lemma Session.sameLater_title (hon : s.lookup on = .ok (.object (.deck j))) (value : Atom)
    (hsteps : Throughout (Step.LeavesTitle j) steps s) : s.SameLater (.assign on "toctitle" value) steps := by
  have htied := s.tied_setOutlineTitle j value
  rw [← Action.session_run_title hon value] at htied
  exact htied.later (hsteps.mono (fun _ _ => Step.LeavesTitle.allowed) steps)

lemma Session.sameLater_setting (hd : s.workspace.deck? j = some d) (hon : s.lookup on = .ok (.object (.deck j)))
    {field : String} (hfield : field ∈ preambleFields) (value : Datum)
    (hsteps : Throughout (Step.LeavesSettings d.settings) steps s) :
    s.SameLater (.assignSetting on field value) steps := by
  have htied : s.Tied (.apart (· = d.settings) fun _ => False)
      (Action.run s (.assignSetting on field value)).session := by
    obtain hsame | ⟨x, hx, hset⟩ := Action.session_run_setting hfield value hd hon
    · rw [hsame]
      exact .of_logger rfl rfl
    · rw [hset]
      exact Session.tied_setSettings hx
  exact htied.later (hsteps.mono (fun _ _ => Step.LeavesSettings.allowed) steps)

lemma Session.Reachable.act (hs : s.Reachable) (action : Action) : (action.run s).session.Reachable := by
  have hrun := hs.run (.act action none)
  rw [Step.run, Session.answer] at hrun
  cases houtcome : (action.run s).outcome with
  | error | ok =>
    rw [houtcome] at hrun
    exact hrun

lemma Session.here_deck (hd : s.workspace.deck? j = some d) : (Pairing.here s.workspace).deck j j :=
  ⟨rfl, (Array.getElem?_eq_some_iff.mp hd).1⟩

lemma Session.sameDeck_title (hs : s.Reachable) (hd : s.workspace.deck? j = some d)
    (hon : s.lookup on = .ok (.object (.deck k))) (value : Atom) {aside : List String}
    (hsteps : Abreast (Step.KeepsPace aside) aside steps s (Action.run s (.assign on "toctitle" value)).session) :
    s.SameDeck j (.assign on "toctitle" value) steps := by
  have ht := hs.act (.assign on "toctitle" value)
  rw [SameDeck]
  rw [Action.session_run_title hon value] at ht hsteps ⊢
  have hsupports : Supports (comparison (fun _ => True) aside) (Step.KeepsPace aside) :=
    fun step s t hpace => ⟨hpace, fun _ _ _ => .inl fun x y heq => congrArg LooseSettings.preamble heq.symm⟩
  exact ((hs.twins _).retitle_right k value).writeDeckAlike hsupports hs ht (here_deck hd) hd
    (fun _ _ _ _ => trivial) hsteps

lemma Session.sameDeck_setting (hs : s.Reachable) (hd : s.workspace.deck? j = some d)
    (he : s.workspace.deck? k = some e) (hon : s.lookup on = .ok (.object (.deck k))) {field : String}
    (hfield : field ∈ preambleFields) (value : Datum) {aside : List String}
    (hsteps : Abreast (fun step u v => step.KeepsPace aside u v ∧ step.BuildsOutside (EverInDeck steps s d) u v) aside
      steps s (Action.run s (.assignSetting on field value)).session) :
    s.SameDeck j (.assignSetting on field value) steps := by
  have ht := hs.act (.assignSetting on field value)
  have htwins : s.Twins (looseComparison (EverInDeck steps s d) aside) (.here s.workspace)
      (Action.run s (.assignSetting on field value)).session := by
    obtain hsame | ⟨x, hx, hset⟩ := Action.session_run_setting hfield value he hon
    · rw [hsame]
      exact hs.twins _
    · rw [hset]
      exact (hs.twins _).assign_right (fun _ _ => id) hx
  exact htwins.writeDeckAlike (fun step u v h => ⟨h.1, fun o source hmakes => .inr (h.2 o source hmakes)⟩) hs ht
    (here_deck hd) hd (fun u hu m hm => ⟨u, hu, hm⟩) hsteps

end

/-- The settings of a presentation are read when it is built, and the two that concern all of its text when it is
written. So what is assigned to the others, or to its title of the outline, has no bearing on the text of a presentation
that is there, as long as no step fails because of it and no preamble that shows it gets into the trees of the
presentation; and it has no bearing on anything, as long as no step reads it. No step changes settings but by assigning
them, so what is done away from the trees of a presentation leaves its text, also where it is done to others that share
its settings; and all presentations built from settings while these are the same have the same preamble. -/
theorem settings_are_read_at_two_times {s : Session} (hs : s.Reachable) {j : ℕ} {d : Deck}
    (hd : s.workspace.deck? j = some d) :
    (∀ x, (s.workspace.settingsAt d.settings).WritesAlike x → d.rendering s.store x = s.deckRendering d) ∧
    (∀ k on value steps aside, s.lookup on = .ok (.object (.deck k)) →
      Abreast (Step.KeepsPace aside) aside steps s (Action.run s (.assign on "toctitle" value)).session →
      s.SameDeck j (.assign on "toctitle" value) steps) ∧
    (∀ k on field value steps aside, s.lookup on = .ok (.object (.deck k)) → field ∈ preambleFields →
      Abreast (fun step u v => step.KeepsPace aside u v ∧ step.BuildsOutside (EverInDeck steps s d) u v) aside steps s
        (Action.run s (.assignSetting on field value)).session →
      s.SameDeck j (.assignSetting on field value) steps) ∧
    (∀ on value steps, s.lookup on = .ok (.object (.deck j)) → Throughout (Step.LeavesTitle j) steps s →
      s.SameLater (.assign on "toctitle" value) steps) ∧
    (∀ on field value steps, s.lookup on = .ok (.object (.deck j)) → field ∈ preambleFields →
      Throughout (Step.LeavesSettings d.settings) steps s → s.SameLater (.assignSetting on field value) steps) ∧
    (∀ steps, Throughout Step.AssignsNoSetting steps s → ∀ i < s.workspace.settings.size,
      (runAll steps s).1.workspace.settingsAt i = s.workspace.settingsAt i) ∧
    (∀ steps, Throughout (Step.Bypasses (s.InDeck d) d.settings) steps s → ∀ indent,
      (runAll steps s).1.write (.object (.deck j)) indent = s.write (.object (.deck j)) indent) ∧
    ∀ (s₁ s₂ t₁ t₂ : Session) outlineTitle? source₁ source₂ d₁ d₂, s₁.Builds outlineTitle? source₁ t₁ d₁ →
      s₂.Builds outlineTitle? source₂ t₂ d₂ →
      t₂.workspace.settingsAt d₂.settings = t₁.workspace.settingsAt d₁.settings →
      ∃ tree₁ tree₂, t₁.store.tree? d₁.preamble = some tree₁ ∧ t₂.store.tree? d₂.preamble = some tree₂ ∧
        tree₁.Isomorphic tree₂ := by
  have hw := hs.wellFormed
  refine ⟨fun x hx => Deck.rendering_embeds (.refl s.store) rfl rfl rfl hx.step? hx.comment?,
    fun k on value steps aside hon => Session.sameDeck_title hs hd hon value,
    fun k on field value steps aside hon hfield hsteps => ?_,
    fun on value steps hon hsteps => Session.sameLater_title hon value hsteps,
    fun on field value steps hon hfield hsteps => Session.sameLater_setting hd hon hfield value hsteps,
    fun steps hsteps i hi => ?_, fun steps hsteps indent => ?_, fun _ _ _ _ _ _ _ _ _ => Session.isomorphic_preambles⟩
  · obtain ⟨e, he⟩ : ∃ e, s.workspace.deck? k = some e := ⟨_, Array.getElem?_eq_getElem (hs.bounded.lookup hon)⟩
    exact Session.sameDeck_setting hs hd he hon hfield value hsteps
  · -- What a presentation copies from its settings are values, so only an assignment reaches them.
    have hkept := (hsteps.run Step.yields_keeps).settings hi
    rw [Workspace.settingsAt, Workspace.settingsAt, Array.getD_eq_getD_getElem?, Array.getD_eq_getD_getElem?, hkept]
  · have hspares := hsteps.run (Step.yields_spares (s.InDeck d) d.settings)
    obtain ⟨title?, hd'⟩ := hspares.decks hd
    have hsettings : d.settings < s.workspace.settings.size := hs.bounded.settings d (Array.mem_of_getElem? hd)
    have hrendering := hspares.deckRendering hw (hw.deck? hd) hsettings
    simp only [Session.write_eq, hd, hd']
    exact congrArg Sight.ofRendering hrendering

theorem settings_are_read_at_two_times_of_pair :
    let script : List Step := [.act (.makeDeck none .standard) (some "d"),
      .act (.look "d" (.field "config")) (some "c"), .act (.makeDeck none (.shared "c")) (some "e")]
    let s := (runAll script {}).1
    let writing : List Step := [.act (.look "d" (.write none)) none]
    let slide : String → Step := fun on => .build (.child on (.frame none)) none
    let make : Step := .act (.makeDeck none (.shared "c")) (some "g")
    let third : List Step := [make, slide "d"]
    let d : Deck := ⟨.null, 0, 0, 1, 9⟩
    (∀ x, (s.workspace.settingsAt 0).WritesAlike x → d.rendering s.store x = s.deckRendering d) ∧
    s.SameDeck 0 (.assign "d" "toctitle" (.text "Outline")) third ∧
    s.SameDeck 0 (.assignSetting "d" "document_class" (.scalar (.text "article"))) third ∧
    s.SameLater (.assign "d" "toctitle" (.text "Outline")) writing ∧
    s.SameLater (.assignSetting "d" "document_class" (.scalar (.int 5))) writing ∧
    (runAll [slide "e"] s).1.workspace.settingsAt 0 = s.workspace.settingsAt 0 ∧
    (∀ indent, (runAll [slide "e"] s).1.write (.object (.deck 0)) indent = s.write (.object (.deck 0)) indent) ∧
    (runAll [slide "e"] s).1.store.children 10 = [20] ∧
    ∃ t₁ t₂ d₁ d₂ tree₁ tree₂, Session.Builds {} none .standard t₁ d₁ ∧ s.Builds none (.shared "c") t₂ d₂ ∧
      t₁.store.tree? d₁.preamble = some tree₁ ∧ t₂.store.tree? d₂.preamble = some tree₂ ∧
      tree₁.Isomorphic tree₂ := by
  intro script s writing slide make third d
  have hs : s.Reachable := reachable_runAll script
  have hd : s.workspace.deck? 0 = some d := by decide +kernel
  have hon : s.lookup "d" = .ok (.object (.deck 0)) := rfl
  obtain ⟨hread, htitled, hset, htitle, hsetting, hkept, hspared, hbuilt⟩ := settings_are_read_at_two_times hs hd
  have hpace (action : Action) (hmade : (make.run (action.run s).session).2.fault? = none)
      (hframed : ((slide "d").run (make.run (action.run s).session).1).2.fault? = none) :
      Step.KeepsPace [] make s (action.run s).session ∧
        Step.KeepsPace [] (slide "d") (make.run s).1 (make.run (action.run s).session).1 :=
    ⟨Step.keepsPace_of_sound (fun _ _ => List.not_mem_nil) (by decide +kernel) hmade,
      Step.keepsPace_of_sound (fun _ _ => List.not_mem_nil) (by decide +kernel) hframed⟩
  have houtside (t : Session) : make.BuildsOutside (EverInDeck third s d) s t := by
    have hmade : s.Builds none (.shared "c") (Action.run s (.makeDeck none (.shared "c"))).session ⟨.null, 0, 20, 21, 29⟩ :=
      ⟨2, rfl, by decide +kernel⟩
    rintro title? source hmakes u w x y hx - -
    cases hmakes
    obtain rfl := hx.eq_right hmade
    exact not_everInDeck (by decide +kernel) (by decide)
  have hlater : Throughout (Step.LeavesSettings d.settings) writing s := by
    refine ⟨⟨fun name hname heq => ?_, fun on question result? e hstep he hshown => ?_⟩, trivial⟩
    · obtain rfl := List.mem_singleton.mp hname
      cases hon.symm.trans heq
    · cases hstep
      obtain ⟨v, hv⟩ := Session.value_of_write hshown
      cases hv
  have hbypassed : Throughout (Step.Bypasses (s.InDeck d) d.settings) [slide "e"] s := by
    have htargets : (Construction.child "e" (.frame none)).targets s = [10] := by decide +kernel
    refine ⟨fun m hm => ?_, trivial⟩
    rw [htargets] at hm
    obtain rfl := List.mem_singleton.mp hm
    exact Session.not_inDeck_of_free (by decide +kernel) (by decide)
  have hassigns : Throughout Step.AssignsNoSetting [slide "e"] s :=
    ⟨fun on field value result? heq => (by cases heq), trivial⟩
  obtain ⟨t₁, d₁, h₁, hsame₁⟩ : ∃ t₁ d₁, Session.Builds {} none .standard t₁ d₁ ∧
      t₁.workspace.settingsAt d₁.settings = ({} : Settings).loose := ⟨_, _, ⟨0, rfl, rfl⟩, rfl⟩
  obtain ⟨t₂, d₂, h₂, hsame₂⟩ : ∃ t₂ d₂, s.Builds none (.shared "c") t₂ d₂ ∧
      t₂.workspace.settingsAt d₂.settings = ({} : Settings).loose := ⟨_, _, ⟨2, rfl, rfl⟩, rfl⟩
  obtain ⟨tree₁, tree₂, htree₁, htree₂, hiso⟩ := hbuilt {} s t₁ t₂ none .standard (.shared "c") d₁ d₂ h₁ h₂
    (hsame₂.trans hsame₁.symm)
  refine ⟨hread, htitled 0 "d" _ third [] hon ?_, hset 0 "d" _ _ third [] hon (by simp [preambleFields]) ?_,
    htitle "d" _ writing hon ⟨fun _ _ heq => (by cases heq), trivial⟩,
    hsetting "d" _ _ writing hon (by simp [preambleFields]) hlater, hkept [slide "e"] hassigns 0 (by decide +kernel),
    hspared [slide "e"] hbypassed, by decide +kernel,
    t₁, t₂, d₁, d₂, tree₁, tree₂, h₁, h₂, htree₁, htree₂, hiso⟩
  · obtain ⟨hmakes, hframes⟩ := hpace (.assign "d" "toctitle" (.text "Outline")) (by decide +kernel) (by decide +kernel)
    exact ⟨.inr hmakes, .inr hframes, trivial⟩
  · obtain ⟨hmakes, hframes⟩ := hpace (.assignSetting "d" "document_class" (.scalar (.text "article"))) (by decide +kernel)
      (by decide +kernel)
    exact ⟨.inr ⟨hmakes, houtside _⟩, .inr ⟨hframes, Step.buildsOutside_of_deck?_eq_none rfl _ _ _⟩, trivial⟩

/-- Presentations whose parts are put into others: what is put into the document of one that is a part of another
one is written with that, and a preamble built from other settings shows these. And where a step fails because of what
was assigned, it may end others. -/
theorem parts_carry_settings :
    (¬ ∀ s : Session, s.Reachable → ∀ (i j : ℕ) (d e : Deck), s.workspace.deck? i = some d →
      s.workspace.deck? j = some e → i ≠ j → e.settings = d.settings → ∀ (step : Step) (indent : String),
      step.targets? s = some [e.document] →
      (step.run s).1.write (.object (.deck i)) indent = s.write (.object (.deck i)) indent) ∧
    (¬ ∀ s : Session, s.Reachable → ∀ (i : ℕ) (on : String) (value : Datum) (steps : List Step) (indent : String),
      s.lookup on = .ok (.object (.deck i)) →
      (runAll steps (Action.run s (.assignSetting on "document_class" value)).session).1.write (.object (.deck i)) indent =
        (runAll steps s).1.write (.object (.deck i)) indent) ∧
    (¬ ∀ s : Session, s.Reachable → ∀ (i : ℕ) (on : String) (value : Atom) (steps : List Step) (indent : String),
      s.lookup on = .ok (.object (.deck i)) →
      (runAll steps (Action.run s (.assign on "toctitle" value)).session).1.write (.object (.deck i)) indent =
        (runAll steps s).1.write (.object (.deck i)) indent) ∧
    ¬ ∀ s : Session, s.Reachable → ∀ (i : ℕ) (d : Deck) (on : String) (value : Datum) (steps : List Step),
      s.workspace.deck? i = some d → s.lookup on = .ok (.object (.deck i)) →
      Abreast (Step.BuildsOutside (EverInDeck steps s d)) [] steps s
        (Action.run s (.assignSetting on "packages" value)).session →
      s.SameDeck i (.assignSetting on "packages" value) steps := by
  let script : List Step := [.act (.makeDeck none .standard) (some "d"), .act (.look "d" (.field "config")) (some "c")]
  let second : List Step := [.act (.makeDeck none (.shared "c")) (some "e")]
  refine ⟨fun h => ?_, fun h => ?_, fun h => ?_, fun h => ?_⟩
  · let joined := script ++ second ++
      [.act (.look "e" (.field "document")) (some "n"), .build (.adopt "d" "n" .last) none]
    have hwritten := h (runAll joined {}).1 (reachable_runAll joined) 0 1 ⟨.null, 0, 0, 1, 9⟩ ⟨.null, 0, 10, 11, 19⟩
      (by decide +kernel) (by decide +kernel) (by decide) rfl (.build (.child "e" (.frame none)) none) ""
      (by decide +kernel)
    exact absurd (congrArg Sight.text? hwritten) (by decide +kernel)
  · let joining := second ++
      [.act (.look "e" (.field "base_header")) (some "h"), .build (.adopt "d" "h" .last) none]
    have hwritten := h (runAll script {}).1 (reachable_runAll script) 0 "d" (.scalar (.int 5)) joining "" rfl
    exact absurd (congrArg Sight.text? hwritten) (by decide +kernel)
  · let counting : List Step := [.buildWith (.child "d" (.frame none)) none
      [.act (.look "d" (.field "toctitle")) (some "x"), .act (.look "x" .count) none] none]
    have hwritten := h (runAll script {}).1 (reachable_runAll script) 0 "d" (.text "Outline") counting "" rfl
    exact absurd (congrArg Sight.text? hwritten) (by decide +kernel)
  · let making : Step := .act (.makeDeck none (.shared "c")) none
    let framing : List Step := [.buildWith (.child "d" (.frame none)) none [making] none]
    let s := (runAll script {}).1
    let t := (Action.run s (.assignSetting "d" "packages" (.scalar (.int 5)))).session
    have hfails : ((Construction.child "d" (.frame none)).start t).toOption.map (fun begun =>
      ((begun.1.bind none begun.2.subject).makeDeck none (.shared "c")).isOk) = some false := by decide +kernel
    have houtside (u v : Session) (p q : Pending) (hv : (Construction.child "d" (.frame none)).start t = .ok (v, q)) :
        making.BuildsOutside (EverInDeck framing s ⟨.null, 0, 0, 1, 9⟩) (u.bind none p.subject)
          (v.bind none q.subject) := by
      rintro outlineTitle? source hmakes w x d e hd ⟨i, hmake, he⟩
      cases hmakes
      rw [hv] at hfails
      simp only [Except.toOption, Option.map_some, hmake] at hfails
      cases hfails
    have hwritten := h s (reachable_runAll script) 0 ⟨.null, 0, 0, 1, 9⟩ "d" (.scalar (.int 5)) framing
      (by decide +kernel) rfl ⟨.inr ⟨Step.buildsOutside_of_deck?_eq_none rfl _ _ _,
        fun u v p q _ hv => ⟨houtside u v p q hv, fun _ _ => trivial⟩⟩, trivial⟩
    have hlast := (List.forall₂_iff_get.mp hwritten).2 3 (by decide +kernel) (by decide +kernel) ""
    exact absurd (congrArg Sight.text? hlast) (by decide +kernel)

end Script

end SlideDeck
