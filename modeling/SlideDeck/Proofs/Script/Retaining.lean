import SlideDeck.Proofs.Script.Along
import SlideDeck.Proofs.Script.Bounds
import SlideDeck.Proofs.Script.Locality
import SlideDeck.Proofs.Script.Relocating

/-! What a run leaves as it was: settings as long as none is assigned, and the text of a presentation as long as
nothing is done to its trees. -/

namespace SlideDeck

lemma Workspace.settingsAt_set (w : Workspace) {i k : ℕ} (hi : i < w.settings.size) (x : LooseSettings) :
    ({ w with settings := w.settings.setIfInBounds k x } : Workspace).settingsAt i =
      if k = i then x else w.settingsAt i := by
  rw [settingsAt, settingsAt, Array.getD_eq_getD_getElem?, Array.getD_eq_getD_getElem?,
    Array.getElem?_setIfInBounds]
  split
  · next hk =>
    rw [if_pos (hk ▸ hi)]
    rfl
  · rfl

lemma LooseSettings.writesAlike_assign? {x y : LooseSettings} {field : String} {value : Datum}
    (h : x.assign? field value = some y) (hindent : field ≠ "indent") (hcomment : field ≠ "code_package_comment") :
    x.WritesAlike y := by
  rw [LooseSettings.assign?.eq_def] at h
  split at h
  · cases h
    exact ⟨rfl, rfl⟩
  · cases h
    exact ⟨rfl, rfl⟩
  · exact absurd rfl hindent
  · cases h
    exact ⟨rfl, rfl⟩
  · exact absurd rfl hcomment
  · cases h

namespace Script

structure Session.Keeps (s t : Session) : Prop where
  decks {j : ℕ} {d : Deck} : s.workspace.deck? j = some d →
    ∃ title, t.workspace.deck? j = some { d with outlineTitle := title }
  settings {i : ℕ} : i < s.workspace.settings.size → t.workspace.settings[i]? = s.workspace.settings[i]?

namespace Session

variable {s t u : Session} {e x : Entity}

lemma keeps_of_same (hdecks : t.workspace.decks = s.workspace.decks)
    (hsettings : t.workspace.settings = s.workspace.settings) : s.Keeps t where
  decks {j d} hd := by
    refine ⟨d.outlineTitle, ?_⟩
    rw [Workspace.deck?, hdecks]
    exact hd
  settings _ := by rw [hsettings]

lemma Keeps.refl (s : Session) : s.Keeps s := keeps_of_same rfl rfl

lemma keeps_bind (s : Session) (name? : Option String) (e : Entity) : s.Keeps (s.bind name? e) :=
  keeps_of_same (by rw [workspace_bind]) (by rw [workspace_bind])

lemma keeps_withStore (s : Session) (store : Store) : s.Keeps (s.withStore store) := keeps_of_same rfl rfl

lemma Keeps.trans (h : s.Keeps t) (h' : t.Keeps u) : s.Keeps u where
  decks hd := by
    obtain ⟨title, hd⟩ := h.decks hd
    obtain ⟨title', hd⟩ := h'.decks hd
    exact ⟨title', hd⟩
  settings {i} hi := by
    have hkept := h.settings hi
    have hlt : i < t.workspace.settings.size := by
      rw [Array.getElem?_eq_getElem hi] at hkept
      exact (Array.getElem?_eq_some_iff.mp hkept).1
    rw [h'.settings hlt, hkept]

lemma keeps_addSettings (s : Session) (settings : Settings) :
    s.Keeps { s with workspace := (s.workspace.addSettings settings).1 } where
  decks {j d} hd := ⟨d.outlineTitle, hd⟩
  settings {i} hi := by
    simp only [Workspace.addSettings]
    rw [Array.getElem?_push_lt hi, Array.getElem?_eq_getElem hi]

lemma keeps_takeSettings {source : SettingsSource} {i : ℕ} (h : s.takeSettings source = .ok (t, i)) : s.Keeps t := by
  cases takes h with
  | shared => exact .refl s
  | added _ settings => exact s.keeps_addSettings settings

lemma keeps_makeDeck {outlineTitle? : Option String} {source : SettingsSource}
    (h : s.makeDeck outlineTitle? source = .ok (t, x)) : s.Keeps t := by
  obtain ⟨u, place, store, made, htake, -, rfl, -⟩ := exists_build_of_makeDeck h
  refine (keeps_takeSettings htake).trans ⟨fun {j d} hd => ⟨d.outlineTitle, ?_⟩, fun _ => rfl⟩
  have hlt : j < u.workspace.decks.size := (Array.getElem?_eq_some_iff.mp hd).1
  simp only [Workspace.deck?] at hd ⊢
  rw [Array.getElem?_push_lt hlt, ← hd, Array.getElem?_eq_getElem hlt]

lemma keeps_modifyArguments (s : Session) (a : ArgumentsRef) (f : Arguments → Arguments) :
    s.Keeps (s.modifyArguments a f) := by
  cases a <;> exact keeps_of_same rfl rfl

lemma keeps_changeArguments {method : Method} {f : Arguments → Arguments}
    (h : s.changeArguments e method f = .ok (t, x)) : s.Keeps t := by
  obtain ⟨a, -, h⟩ := bind_eq_ok_iff.mp h
  cases h
  exact s.keeps_modifyArguments a f

lemma keeps_change {c : Change} (h : s.change e c = .ok (t, x)) : s.Keeps t := by
  cases changes h with
  | headings | setTitle | addSlideQualifier | addSource => exact s.keeps_withStore _
  | addOption h => exact keeps_changeArguments h
  | setComment h => exact keeps_changeArguments h

lemma keeps_setOutlineTitle (s : Session) (i : ℕ) (title : Atom) : s.Keeps (s.setOutlineTitle i title) where
  decks {j d} hd := by
    simp only [Workspace.deck?] at hd
    simp only [setOutlineTitle, Workspace.deck?, Array.getElem?_modify, hd]
    split
    · exact ⟨title, rfl⟩
    · exact ⟨d.outlineTitle, rfl⟩
  settings _ := rfl

lemma Assigns.keeps {o : Object} {name : String} {value : Atom} (h : s.Assigns o name value t) : s.Keeps t := by
  cases h with
  | node h => exact s.keeps_withStore _
  | comment a => exact s.keeps_modifyArguments a _
  | outlineTitle i => exact s.keeps_setOutlineTitle i value
  | mark o => exact keeps_of_same rfl rfl

lemma keeps_set {name : String} {value : Atom} (h : s.set e name value = .ok t) : s.Keeps t := by
  obtain ⟨o, -, hassigns⟩ := exists_assigns h
  exact hassigns.keeps

end Session

lemma Action.run_keeps (s : Session) {action : Action}
    (hno : ∀ on field value, action ≠ .assignSetting on field value) :
    s.Keeps (action.run s).session := by
  have hleads := action.leads s
  generalize (action.run s).session = t at hleads ⊢
  cases hleads with
  | makeDeck h => exact Session.keeps_makeDeck h
  | change hon h => exact Session.keeps_change h
  | assign hon h => exact Session.keeps_set h
  | @assignSetting on field value => exact absurd rfl (hno on field value)
  | pushArgument hon ha => exact s.keeps_modifyArguments _ _
  | load path file settings => exact s.keeps_addSettings settings
  | stay | make | makeArguments | makeCodeHeader | setUpLog => exact Session.keeps_of_same rfl rfl

lemma Construction.start_keeps {s t : Session} {construction : Construction} {p : Pending}
    (h : construction.start s = .ok (t, p)) : s.Keeps t := by
  cases Construction.begins h with
  | deck hmake => exact Session.keeps_makeDeck hmake
  | child hon hc => exact s.keeps_withStore _
  | adopt | head => exact .refl s

lemma Pending.finish_keeps {s t : Session} {p : Pending} (h : p.finish s = .ok t) : s.Keeps t := by
  have hfinish := Pending.finish_eq h
  split at hfinish
  · rw [hfinish]
    exact .refl s
  · rw [hfinish.2]
    exact s.keeps_withStore _

def Step.AssignsNoSetting (step : Step) (_ : Session) : Prop :=
  ∀ on field value result?, step ≠ .act (.assignSetting on field value) result?

lemma Step.yields_keeps : Step.Yields Step.AssignsNoSetting Session.Keeps where
  refl := .refl
  trans h h' := h.trans h'
  bind _ _ e := Session.keeps_bind _ _ e
  act {s action result?} h := action.run_keeps s fun on field value heq => h on field value result? (by rw [heq])
  start _ _ h := Construction.start_keeps h
  finish _ _ _ _ h := Pending.finish_keeps h

lemma Action.deck?_run (s : Session) (action : Action) {j : ℕ} {d : Deck} (hd : s.workspace.deck? j = some d) :
    ∃ title, (action.run s).session.workspace.deck? j = some { d with outlineTitle := title } := by
  by_cases hsetting : ∃ on field value, action = .assignSetting on field value
  · obtain ⟨on, field, value, rfl⟩ := hsetting
    have hleads := Action.leads s (.assignSetting on field value)
    generalize (Action.run s (.assignSetting on field value)).session = t at hleads ⊢
    cases hleads with
    | stay => exact ⟨d.outlineTitle, hd⟩
    | assignSetting hon h =>
      obtain ⟨_, _, _, -, -, -, rfl⟩ := Session.exists_of_assignSetting h
      exact ⟨d.outlineTitle, hd⟩
  · exact (action.run_keeps s fun on field value heq => hsetting ⟨on, field, value, heq⟩).decks hd

def Session.KeepsDecks (s t : Session) : Prop :=
  ∀ j d, s.workspace.deck? j = some d → ∃ title, t.workspace.deck? j = some { d with outlineTitle := title }

lemma Step.yields_keepsDecks : Step.Yields (fun _ _ => True) Session.KeepsDecks where
  refl _ _ d hd := ⟨d.outlineTitle, hd⟩
  trans h h' j d hd := by
    obtain ⟨title, hd⟩ := h j d hd
    obtain ⟨title', hd⟩ := h' j _ hd
    exact ⟨title', hd⟩
  bind _ _ e _ _ hd := (Session.keeps_bind _ _ e).decks hd
  act _ _ _ hd := Action.deck?_run _ _ hd
  start _ _ h _ _ hd := (Construction.start_keeps h).decks hd
  finish _ _ _ _ h _ _ hd := (Pending.finish_keeps h).decks hd

def Session.settingsOf? (s : Session) (on : String) : Option ℕ :=
  match s.lookup on with
  | .ok (.object (.deck i)) => (s.workspace.deck? i).map Deck.settings
  | _ => none

/-- A step adds nothing to the nodes of a region and changes none of them, and it assigns neither the indentation
nor the comment on listings of the settings at a place. -/
def Step.Bypasses (inside : NodeId → Prop) (place : ℕ) : Step → Session → Prop
  | .act (.assignSetting on field _) _, s =>
    field = "indent" ∨ field = "code_package_comment" → s.settingsOf? on ≠ some place
  | .act action _, s => ∀ m ∈ action.targets s, ¬ inside m
  | .build construction _, s | .buildWith construction _ _ _, s => ∀ m ∈ construction.targets s, ¬ inside m
  | .within _ _ _, _ => True

structure Session.Spares (inside : NodeId → Prop) (place : ℕ) (s t : Session) : Prop where
  size_le : s.store.size ≤ t.store.size
  node {m : NodeId} : inside m → m < s.store.size → (t.store.node m).detached = (s.store.node m).detached
  decks {j : ℕ} {d : Deck} : s.workspace.deck? j = some d →
    ∃ title, t.workspace.deck? j = some { d with outlineTitle := title }
  settings : place < s.workspace.settings.size → place < t.workspace.settings.size ∧
    (s.workspace.settingsAt place).WritesAlike (t.workspace.settingsAt place)

section

variable {s t u : Session} {inside : NodeId → Prop} {place : ℕ}

lemma Session.Keeps.spares (h : s.Keeps t) {touched : List NodeId} (hstore : s.store.Spares t.store touched)
    (htouched : ∀ m ∈ touched, ¬ inside m) : s.Spares inside place t where
  size_le := hstore.size_le
  node hm hlt := hstore.node _ hlt fun hmem => htouched _ hmem hm
  decks := h.decks
  settings hi := by
    have hkept := h.settings hi
    rw [Array.getElem?_eq_getElem hi] at hkept
    refine ⟨(Array.getElem?_eq_some_iff.mp hkept).1, ?_⟩
    have hsame : t.workspace.settingsAt place = s.workspace.settingsAt place := by
      simp only [Workspace.settingsAt, Array.getD_eq_getD_getElem?, hkept, Array.getElem?_eq_getElem hi]
    rw [hsame]
    exact .refl _

lemma Session.Spares.trans (h : s.Spares inside place t) (h' : t.Spares inside place u) : s.Spares inside place u where
  size_le := h.size_le.trans h'.size_le
  node hm hlt := (h'.node hm (hlt.trans_le h.size_le)).trans (h.node hm hlt)
  decks hd := by
    obtain ⟨title, hd⟩ := h.decks hd
    obtain ⟨title', hd⟩ := h'.decks hd
    exact ⟨title', hd⟩
  settings hi := by
    obtain ⟨hlt, halike⟩ := h.settings hi
    obtain ⟨hlt', halike'⟩ := h'.settings hlt
    exact ⟨hlt', halike'.indent.trans halike.indent, halike'.codeComment?.trans halike.codeComment?⟩

lemma Session.Spares.agreesOn (h : s.Spares inside place t) (hs : s.WellFormed)
    (hlt : ∀ m, inside m → m < s.store.size)
    (hclosed : ∀ m c, inside m → s.store.parent? c = some m → inside c) : s.store.AgreesOn t.store inside where
  node m hm := h.node hm (hlt m hm)
  closed m c hm hc := hclosed m c hm ((hs.store.mem_children_iff m c).mp hc)

lemma Session.spares_of_keeps (h : s.Keeps t) (hstore : t.store = s.store) : s.Spares inside place t := by
  refine h.spares (t := t) (show s.store.Spares t.store [] from ?_) (by simp)
  rw [hstore]
  exact .refl _ _

lemma Session.spares_bind (s : Session) (name? : Option String) (e : Entity) :
    s.Spares inside place (s.bind name? e) :=
  spares_of_keeps (s.keeps_bind name? e) (s.store_bind name? e)

lemma Session.spares_assignSetting {on field : String} {value : Datum} {e : Entity} (he : s.lookup on = .ok e)
    (h : s.assignSetting e field value = .ok t)
    (hother : field = "indent" ∨ field = "code_package_comment" → s.settingsOf? on ≠ some place) :
    s.Spares inside place t := by
  obtain ⟨i, d, settings, rfl, hd, hassign, rfl⟩ := exists_of_assignSetting h
  refine ⟨Nat.le_refl _, fun _ _ => rfl, fun {j d} hd => ⟨d.outlineTitle, hd⟩, fun hi => ⟨by simpa using hi, ?_⟩⟩
  rw [Workspace.settingsAt_set _ hi]
  split
  · next hplace =>
    subst hplace
    have hon : s.settingsOf? on = some d.settings := by simp [settingsOf?, he, hd]
    exact LooseSettings.writesAlike_assign? hassign (fun heq => hother (.inl heq) hon)
      fun heq => hother (.inr heq) hon
  · exact .refl _

lemma Action.run_bypasses {action : Action} {result? : Option String}
    (h : (Step.act action result?).Bypasses inside place s) : s.Spares inside place (action.run s).session := by
  by_cases hsetting : ∃ on field value, action = .assignSetting on field value
  · obtain ⟨on, field, value, rfl⟩ := hsetting
    simp only [Action.run]
    cases he : s.lookup on with
    | error fault => exact Session.spares_of_keeps (.refl s) rfl
    | ok e =>
      change s.Spares inside place
        (Effect.ofResult s ((s.assignSetting e field value).bind fun t => .ok (t, .nothing))).session
      cases hassign : s.assignSetting e field value with
      | error fault => exact Session.spares_of_keeps (.refl s) rfl
      | ok t => exact Session.spares_assignSetting he hassign h
  · have hno (on field value) : action ≠ .assignSetting on field value := fun heq => hsetting ⟨on, field, value, heq⟩
    refine (action.run_keeps s hno).spares (action.run_spares s) fun m hm => ?_
    cases action with
    | assignSetting on field value => exact absurd rfl (hno on field value)
    | _ => exact h m hm

lemma Step.targets_of_bypasses {step : Step} {construction : Construction} (hc : step.construction? = some construction)
    (h : step.Bypasses inside place s) : ∀ m ∈ construction.targets s, ¬ inside m := by
  cases step with
  | build | buildWith =>
    cases hc
    exact h
  | act | within => cases hc

lemma Step.yields_spares (inside : NodeId → Prop) (place : ℕ) :
    Step.Yields (Step.Bypasses inside place) (Session.Spares inside place) where
  refl s := Session.spares_of_keeps (.refl s) rfl
  trans h h' := h.trans h'
  bind _ _ e := Session.spares_bind _ _ e
  act h := Action.run_bypasses h
  start hc h hstart :=
    (Construction.start_keeps hstart).spares (Construction.start_spares hstart).1 (Step.targets_of_bypasses hc h)
  finish {s t u v step construction p} hc h hstart _ hfinish := by
    have htarget := (Construction.start_spares hstart).2
    have heq := Pending.finish_eq hfinish
    split at heq
    · exact Session.spares_of_keeps (Pending.finish_keeps hfinish) (by rw [heq])
    · next a hsome =>
      obtain ⟨-, rfl⟩ := heq
      rw [Pending.attachment?] at hsome
      split at hsome
      · next n c place' _ hplace =>
        cases hsome
        refine (Pending.finish_keeps hfinish).spares
          ((Store.Spares.refl u.store [c]).link (.inl (List.mem_singleton.mpr rfl)) n place') ?_
        rw [List.forall_mem_singleton]
        exact Step.targets_of_bypasses hc h c (htarget c place' hplace)
      · cases hsome

end

end Script

end SlideDeck
