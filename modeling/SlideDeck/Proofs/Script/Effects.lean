import SlideDeck.Proofs.Script.Outcomes
import SlideDeck.Proofs.Script.Sights

/-! What a step that is done at once does to the store: it makes edits, and its answer is in the store. So is
what a construction has begun. -/

namespace SlideDeck

lemma Node.sameShape_of_content {n : Node} {c : Content} (hk : c.kind = n.content.kind)
    (hl : c.listing? = n.content.listing?) : n.SameShape { n with content := c } :=
  ⟨rfl, rfl, hk, hl⟩

lemma Content.same_of_assign? {c d : Content} {name : String} {value : Atom} (h : c.assign? name value = some d) :
    d.kind = c.kind ∧ d.listing? = c.listing? := by
  rw [Content.assign?.eq_def] at h
  split at h
  case h_7 form _ _ =>
    cases h
    cases form <;> exact ⟨rfl, rfl⟩
  case h_12 => cases h
  all_goals
    cases h
    exact ⟨rfl, rfl⟩

lemma Node.sameShape_of_assign? {n m : Node} {name : String} {value : Atom}
    (h : n.assign? name value = some m) : n.SameShape m := by
  rw [Node.assign?] at h
  split_ifs at h
  · cases h
    exact ⟨rfl, rfl, rfl, rfl⟩
  · obtain ⟨content, hc, rfl⟩ := Option.map_eq_some_iff.mp h
    obtain ⟨hkind, hlisting⟩ := Content.same_of_assign? hc
    exact sameShape_of_content hkind hlisting
  · obtain ⟨content, hc, rfl⟩ := Option.map_eq_some_iff.mp h
    obtain ⟨hkind, hlisting⟩ := Content.same_of_assign? hc
    exact ⟨rfl, rfl, hkind, hlisting⟩

end SlideDeck

namespace SlideDeck.Script

structure Session.Follows (s t : Session) : Prop where
  edits : s.store.Edits t.store
  names : t.names = s.names
  decks : (∀ d ∈ s.workspace.decks, d.Within s.store) → ∀ d ∈ t.workspace.decks, d.Within t.store

structure Session.Alters (s t : Session) : Prop where
  shape : s.store.SameShape t.store
  names : t.names = s.names
  decks : (∀ d ∈ s.workspace.decks, d.Within s.store) → ∀ d ∈ t.workspace.decks, d.Within t.store

structure Effect.Follows (s : Session) (e : Effect) : Prop where
  session : s.Follows e.session
  outcome : ∀ x, e.outcome = .ok x → x.Within e.session.store

namespace Session

variable {s t u : Session}

lemma Follows.refl (s : Session) : s.Follows s := ⟨.refl, rfl, id⟩

lemma Follows.trans (h : s.Follows t) (h' : t.Follows u) : s.Follows u where
  edits := h.edits.trans h'.edits
  names := h'.names.trans h.names
  decks hd := h'.decks (h.decks hd)

lemma Follows.wellFormed (h : s.Follows t) (hs : s.WellFormed) : t.WellFormed where
  store := h.edits.wellFormed hs.store
  names entry he := (hs.names entry (h.names ▸ he)).grows h.edits.grows
  decks := h.decks hs.decks

lemma follows_withStore {store : Store} (h : s.store.Edits store) : s.Follows (s.withStore store) where
  edits := h
  names := rfl
  decks hd d hm := (hd d hm).grows h.grows

lemma Alters.follows (h : s.Alters t) : s.Follows t where
  edits := .single (.alter h.shape)
  names := h.names
  decks := h.decks

lemma Alters.refl (s : Session) : s.Alters s := ⟨.refl s.store, rfl, id⟩

lemma alters_of_eq (hstore : t.store = s.store) (hnames : t.names = s.names)
    (hdecks : t.workspace.decks = s.workspace.decks) : s.Alters t where
  shape := hstore ▸ .refl s.store
  names := hnames
  decks hd d hm := by rw [hstore]; exact hd d (hdecks ▸ hm)

lemma alters_addSettings (s : Session) (settings : Settings) :
    s.Alters { s with workspace := (s.workspace.addSettings settings).1 } :=
  alters_of_eq rfl rfl rfl

lemma alters_takeSettings {source : SettingsSource} {i : Nat}
    (h : s.takeSettings source = .ok (t, i)) : s.Alters t := by
  cases takes h with
  | shared => exact .refl s
  | added _ settings => exact alters_addSettings s settings

lemma follows_build {outlineTitle? : Option String} {settings : LooseSettings} {place : Nat} {store : Store} {d : Deck}
    (h : Deck.build s.store settings place outlineTitle? = .ok (store, d)) :
    s.Follows { s with workspace := { s.workspace with store, decks := s.workspace.decks.push d } } := by
  obtain ⟨hedits, hdeck⟩ := Deck.build_edits h
  refine ⟨hedits, rfl, fun hd d hm => ?_⟩
  rcases Array.mem_push.mp hm with hm | rfl
  · exact (hd d hm).grows hedits.grows
  · exact hdeck

lemma follows_makeDeck {outlineTitle? : Option String} {source : SettingsSource} {e : Entity}
    (h : s.makeDeck outlineTitle? source = .ok (t, e)) : s.Follows t ∧ e.Within t.store := by
  obtain ⟨u, place, store, d, htake, hbuild, rfl, rfl⟩ := exists_build_of_makeDeck h
  exact ⟨(alters_takeSettings htake).follows.trans (follows_build hbuild), trivial⟩

lemma Follows.created (s : Session) (draft : Draft) :
    s.Follows (s.withStore (s.store.create draft).1) :=
  follows_withStore (.single (.create s.store draft))

lemma follows_makeCodeHeader (s : Session) (comment? : Option String) :
    s.Follows (s.makeCodeHeader comment?).1 ∧
      (s.makeCodeHeader comment?).2.Within (s.makeCodeHeader comment?).1.store := by
  have hheader := Store.hasKind_create (s := s.store) .header
  have h₂ := Store.createAllIn_edits (hheader.container rfl) [.package listingName [] comment?]
  exact ⟨follows_withStore (.head (.create s.store .header) h₂),
    (h₂.grows.hasKind hheader).lt_size⟩

end Session

def Pending.Within (p : Pending) (store : Store) : Prop :=
  p.subject.Within store ∧ ∀ c place, p.target? = some (c, place) → store.Container c

lemma Pending.Within.grows {p : Pending} {s t : Store} (hp : p.Within s) (h : s.Grows t) :
    p.Within t :=
  ⟨hp.1.grows h, fun c place hc => h.container (hp.2 c place hc)⟩

lemma Builder.isContainer_of_isOf (builder : Builder) (kind : Kind)
    (h : builder.method.isOf kind = true) : kind.isContainer = true := by
  cases builder <;> cases kind <;> simp [Builder.method, Method.isOf, Kind.isContainer] at h ⊢

lemma Construction.start_follows {s t : Session} {construction : Construction} {p : Pending}
    (hs : s.WellFormed) (h : construction.start s = .ok (t, p)) :
    s.Follows t ∧ p.Within t.store := by
  cases Construction.begins h with
  | deck hmake =>
    obtain ⟨hu, he⟩ := Session.follows_makeDeck hmake
    exact ⟨hu, he, by simp⟩
  | @adopt on node place e c n hon hc hnode =>
    refine ⟨.refl s, hs.lookup hnode, ?_⟩
    rintro _ _ ⟨⟩
    refine hs.containerFor (hs.lookup hon) (fun kind hk => ?_) hc
    cases place <;> simpa [Method.ofPlace, Method.isOf] using hk
  | @child on builder e c hon hc =>
    have hcontainer := hs.containerFor (hs.lookup hon) builder.isContainer_of_isOf hc
    have hcreated := Session.Follows.created s (builder.draft (s.store.kind c))
    refine ⟨hcreated, Store.size_lt_size_create _ _, ?_⟩
    rintro _ _ ⟨⟩
    exact hcreated.edits.grows.container hcontainer
  | head hon hc =>
    have hcontainer := hs.containerFor (hs.lookup hon) (by simp [Method.isOf]) hc
    exact ⟨.refl s, hcontainer.lt_size, by simp⟩

namespace Session

variable {s t : Session}

lemma alters_modify (s : Session) (n : NodeId) {f : Node → Node}
    (h : (s.store.node n).SameShape (f (s.store.node n))) :
    s.Alters (s.withStore (s.store.modify n f)) where
  shape := Store.sameShape_modify s.store n h
  names := rfl
  decks hd d hm := (hd d hm).grows (Store.sameShape_modify s.store n h).grows

lemma alters_modifyArguments (s : Session) (a : ArgumentsRef) (f : Arguments → Arguments) :
    s.Alters (s.modifyArguments a f) := by
  cases a with
  | ofNode n => exact alters_modify s n (Node.sameShape_mapArguments _ f)
  | free i => exact alters_of_eq rfl rfl rfl

lemma follows_createAllIn {c : NodeId} (hc : s.store.Container c) (drafts : List Draft) :
    s.Follows (s.withStore (s.store.createAllIn c drafts)) :=
  follows_withStore (Store.createAllIn_edits hc drafts)

lemma alters_changeArguments {e x : Entity} (he : e.Within s.store) {method : Method}
    {f : Arguments → Arguments} (h : s.changeArguments e method f = .ok (t, x)) :
    s.Alters t ∧ x.Within t.store := by
  obtain ⟨a, -, h⟩ := bind_eq_ok_iff.mp h
  cases h
  have ht := alters_modifyArguments s a f
  refine ⟨ht, ?_⟩
  split
  · trivial
  · exact he.grows ht.shape.grows

lemma WellFormed.listing_container (hs : s.WellFormed) {n listing : NodeId}
    {title language : String} (h : (s.store.node n).content = .code title language listing) :
    s.store.Container listing := by
  obtain ⟨hp, hk⟩ := hs.store.listing n listing (by rw [h]; rfl)
  exact ⟨Store.lt_size_of_parent? _ _ hp, by rw [hk]; rfl⟩

lemma follows_change (hs : s.WellFormed) {e x : Entity} (he : e.Within s.store) {c : Change}
    (h : s.change e c = .ok (t, x)) : s.Follows t ∧ x.Within t.store := by
  cases changes h with
  | headings hc =>
    have hc := hs.containerFor he (fun kind hk => by simpa [Method.isOf] using hk) hc
    exact ⟨follows_createAllIn hc _, trivial⟩
  | setTitle hd => exact ⟨follows_withStore (Deck.setTitle_edits (hs.deck? hd) _ _ _ _), trivial⟩
  | addOption h => exact (alters_changeArguments he h).imp_left Alters.follows
  | setComment h => exact (alters_changeArguments he h).imp_left Alters.follows
  | @addSlideQualifier n slide =>
    have ht := alters_modify s n (f := fun node => { node with slides? := some (.int slide) })
      ⟨rfl, rfl, rfl, rfl⟩
    exact ⟨ht.follows, he.grows ht.shape.grows⟩
  | @addSource n listing title language source hcode =>
    have ht := follows_createAllIn (hs.listing_container hcode) [.raw (Text.trim source ++ "\n")]
    exact ⟨ht, he.grows ht.edits.grows⟩

lemma alters_setOutlineTitle (s : Session) (i : Nat) (title : Atom) : s.Alters (s.setOutlineTitle i title) where
  shape := .refl s.store
  names := rfl
  decks hd d hm := by
    obtain ⟨j, hj⟩ := Array.mem_iff_getElem?.mp hm
    simp only [setOutlineTitle, Array.getElem?_modify] at hj
    split at hj
    · obtain ⟨d₀, hd₀, rfl⟩ := Option.map_eq_some_iff.mp hj
      have hw := hd d₀ (Array.mem_of_getElem? hd₀)
      exact ⟨hw.document, hw.preamble, hw.header⟩
    · exact hd d (Array.mem_of_getElem? hj)

lemma Assigns.alters {o : Object} {name : String} {value : Atom} (h : s.Assigns o name value t) : s.Alters t := by
  cases h with
  | node h => exact alters_modify s _ (Node.sameShape_of_assign? h)
  | comment a => exact alters_modifyArguments s a _
  | outlineTitle i => exact alters_setOutlineTitle s i value
  | mark o => exact alters_of_eq rfl rfl rfl

lemma alters_set {e : Entity} {name : String} {value : Atom} (h : s.set e name value = .ok t) :
    s.Alters t := by
  obtain ⟨o, -, hassigns⟩ := exists_assigns h
  exact hassigns.alters

lemma alters_assignSetting {e : Entity} {field : String} {value : Datum}
    (h : s.assignSetting e field value = .ok t) : s.Alters t := by
  obtain ⟨i, d, settings, -, -, -, rfl⟩ := exists_of_assignSetting h
  exact alters_of_eq rfl rfl rfl

end Session

lemma Action.EndsIn.follows {s t : Session} (hs : s.WellFormed) {action : Action} {x : Entity}
    (h : action.EndsIn s t x) : s.Follows t ∧ x.Within t.store := by
  cases h with
  | make draft => exact ⟨.created s draft, (Store.hasKind_create draft).lt_size⟩
  | makeArguments a => exact ⟨Session.Alters.follows (Session.alters_of_eq rfl rfl rfl), trivial⟩
  | makeDeck h => exact Session.follows_makeDeck h
  | makeCodeHeader comment? => exact Session.follows_makeCodeHeader s comment?
  | change hon h => exact Session.follows_change hs (hs.lookup hon) h
  | look hon h => exact ⟨.refl s, (Session.sees_of_look h).within hs⟩
  | assign hon h => exact ⟨(Session.alters_set h).follows, trivial⟩
  | assignSetting hon h => exact ⟨(Session.alters_assignSetting h).follows, trivial⟩
  | pushArgument hon ha => exact ⟨(Session.alters_modifyArguments s _ _).follows, trivial⟩
  | @load _ _ settings => exact ⟨(Session.alters_addSettings s settings).follows, trivial⟩
  | setUpLog => exact ⟨Session.Alters.follows (Session.alters_of_eq rfl rfl rfl), trivial⟩

lemma Action.run_follows {s : Session} (hs : s.WellFormed) (action : Action) :
    Effect.Follows s (action.run s) := by
  cases h : (action.run s).outcome with
  | error fault =>
    refine ⟨?_, fun x hx => ?_⟩
    · rw [session_run_of_error h]
      exact .refl s
    · rw [h] at hx
      cases hx
  | ok x =>
    obtain ⟨hfollows, hwithin⟩ := (endsIn rfl h).follows hs
    refine ⟨hfollows, fun y hy => ?_⟩
    rw [h] at hy
    cases hy
    exact hwithin

end SlideDeck.Script
