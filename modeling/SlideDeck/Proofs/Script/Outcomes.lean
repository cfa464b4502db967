import SlideDeck.Proofs.Script.Construction
import SlideDeck.Proofs.Script.Looking
import SlideDeck.Proofs.Script.WellFormed

/-! What calls come to where they succeed, one case for each kind of call. -/

namespace SlideDeck.Script

inductive Construction.Begins (s : Session) : Construction → Session → Pending → Prop
  | deck {outlineTitle? : Option String} {source : SettingsSource} {t : Session} {e : Entity}
      (h : s.makeDeck outlineTitle? source = .ok (t, e)) :
      Begins s (.deck outlineTitle? source) t { subject := e, target? := none }
  | adopt {on node : String} {place : Place} {e : Entity} {c n : NodeId} (hon : s.lookup on = .ok e)
      (hc : s.containerFor e (.ofPlace place) = .ok c) (hnode : s.lookup node = .ok (.node n)) :
      Begins s (.adopt on node place) s { subject := .object (.node n), target? := some (c, place) }
  | child {on : String} {builder : Builder} {e : Entity} {c : NodeId} (hon : s.lookup on = .ok e)
      (hc : s.containerFor e builder.method = .ok c) :
      Begins s (.child on builder) (s.withStore (s.store.create (builder.draft (s.store.kind c))).1)
        { subject := .object (.node s.store.size), target? := some (c, .last) }
  | head {on : String} {e : Entity} {c : NodeId} (hon : s.lookup on = .ok e) (hc : s.containerFor e .head = .ok c) :
      Begins s (.head on) s { subject := .object (.node c), target? := none }

lemma Construction.begins {s t : Session} {construction : Construction} {p : Pending}
    (h : construction.start s = .ok (t, p)) : construction.Begins s t p := by
  cases construction with
  | deck outlineTitle? source =>
    obtain ⟨⟨u, e⟩, hmake, h⟩ := bind_eq_ok_iff.mp h
    cases h
    exact .deck hmake
  | adopt on node place =>
    obtain ⟨e, hon, h⟩ := bind_eq_ok_iff.mp h
    obtain ⟨c, hc, h⟩ := bind_eq_ok_iff.mp h
    obtain ⟨subject, hnode, h⟩ := bind_eq_ok_iff.mp h
    have hc : s.containerFor e (.ofPlace place) = .ok c := by cases place <;> exact hc
    split at h
    · obtain ⟨-, -, h⟩ := bind_eq_ok_iff.mp h
      cases h
      exact .adopt hon hc hnode
    · exact (Session.missing_ne_ok _ _ _ _ h).elim
  | child on builder =>
    obtain ⟨e, hon, hrest⟩ := bind_eq_ok_iff.mp h
    obtain ⟨c, hc, -⟩ := bind_eq_ok_iff.mp hrest
    rw [child_start hon hc] at h
    cases h
    exact .child hon hc
  | head on =>
    obtain ⟨e, hon, h⟩ := bind_eq_ok_iff.mp h
    obtain ⟨c, hc, h⟩ := bind_eq_ok_iff.mp h
    cases h
    exact .head hon hc

namespace Session

inductive Takes (s : Session) : SettingsSource → Session → Nat → Prop
  | shared {name : String} {i : Nat} (hon : s.lookup name = .ok (.object (.settings i))) : Takes s (.shared name) s i
  | added (source : SettingsSource) (settings : Settings) :
      Takes s source { s with workspace := (s.workspace.addSettings settings).1 } s.workspace.settings.size

inductive Changes (s : Session) : Entity → Change → Session → Entity → Prop
  | headings {e : Entity} {c : NodeId} {name? sub? : Option String} (hc : s.containerFor e .headings = .ok c) :
      Changes s e (.headings name? sub?) (s.withStore (s.store.createAllIn c (headingDrafts name? sub?))) .nothing
  | setTitle {i : Nat} {d : Deck} {title author : String} {date? subtitle? : Option String}
      (hd : s.workspace.deck? i = some d) :
      Changes s (.object (.deck i)) (.setTitle title author date? subtitle?)
        (s.withStore (d.setTitle s.store title author date? subtitle?)) .nothing
  | addOption {e x : Entity} {t : Session} {option : String}
      (h : s.changeArguments e .addOption (·.addOption option) = .ok (t, x)) : Changes s e (.addOption option) t x
  | setComment {e x : Entity} {t : Session} {comment? : Option String}
      (h : s.changeArguments e .setComment (·.setComment comment?) = .ok (t, x)) :
      Changes s e (.setComment comment?) t x
  | addSlideQualifier {n : NodeId} {slide : Int} :
      Changes s (.object (.node n)) (.addSlideQualifier slide)
        (s.withStore (s.store.modify n fun node => { node with slides? := some (.int slide) })) (.object (.node n))
  | addSource {n listing : NodeId} {title language source : String}
      (hcode : (s.store.node n).content = .code title language listing) :
      Changes s (.object (.node n)) (.addSource source) (s.addSource listing source) (.object (.node n))

inductive Assigns (s : Session) : Object → String → Atom → Session → Prop
  | node {n : NodeId} {name : String} {value : Atom} {node : Node}
      (h : (s.store.node n).assign? name value = some node) :
      Assigns s (.node n) name value (s.withStore (s.store.modify n fun _ => node))
  | comment (a : ArgumentsRef) (value : Atom) :
      Assigns s (.arguments a) "comment" value (s.modifyArguments a (·.assignComment value))
  | outlineTitle (i : Nat) (value : Atom) : Assigns s (.deck i) "toctitle" value (s.setOutlineTitle i value)
  | mark (o : Object) (name : String) (value : Atom) : Assigns s o name value (s.mark o name value)

variable {s t : Session} {e x : Entity}

lemma takes {source : SettingsSource} {i : Nat} (h : s.takeSettings source = .ok (t, i)) : s.Takes source t i := by
  cases source with
  | standard =>
    cases h
    exact .added _ {}
  | shared name =>
    obtain ⟨e, hon, h⟩ := bind_eq_ok_iff.mp h
    split at h
    · cases h
      exact .shared hon
    · split at h
      · cases h
        exact .added _ {}
      · exact (missing_ne_ok _ _ _ _ h).elim
  | data datum =>
    simp only [takeSettings] at h
    split at h <;> cases h
    exact .added _ _

lemma exists_build_of_makeDeck {outlineTitle? : Option String} {source : SettingsSource}
    (h : s.makeDeck outlineTitle? source = .ok (t, x)) :
    ∃ u place store d, s.takeSettings source = .ok (u, place) ∧
      Deck.build u.store (u.workspace.settingsAt place) place outlineTitle? = .ok (store, d) ∧
      t = { u with workspace := { u.workspace with store, decks := u.workspace.decks.push d } } ∧
      x = .object (.deck u.workspace.decks.size) := by
  obtain ⟨⟨u, place⟩, htake, h⟩ := bind_eq_ok_iff.mp h
  simp only at h
  split at h
  · next w i hadd =>
    cases h
    obtain ⟨⟨store, d⟩, hbuild, hadd⟩ := bind_eq_ok_iff.mp hadd
    cases hadd
    exact ⟨u, place, store, d, htake, hbuild, rfl, rfl⟩
  · cases h

def Builds (s : Session) (outlineTitle? : Option String) (source : SettingsSource) (t : Session) (d : Deck) : Prop :=
  ∃ i, s.makeDeck outlineTitle? source = .ok (t, .object (.deck i)) ∧ t.workspace.deck? i = some d

lemma Builds.eq_right {outlineTitle? : Option String} {source : SettingsSource} {d d' : Deck} {t' : Session}
    (h : s.Builds outlineTitle? source t d) (h' : s.Builds outlineTitle? source t' d') : d' = d := by
  obtain ⟨i, hmake, hd⟩ := h
  obtain ⟨i', hmake', hd'⟩ := h'
  obtain ⟨rfl, heq⟩ := Prod.mk.inj (Except.ok.inj (hmake.symm.trans hmake'))
  cases heq
  exact Option.some.inj (hd'.symm.trans hd)

lemma changes {c : Change} (h : s.change e c = .ok (t, x)) : s.Changes e c t x := by
  cases c with
  | headings name? sub? =>
    obtain ⟨c, hc, h⟩ := bind_eq_ok_iff.mp h
    cases h
    exact .headings hc
  | setTitle title author date? subtitle? =>
    simp only [change] at h
    split at h
    · split at h
      · next d hd =>
        obtain ⟨rfl, rfl⟩ := Prod.mk.inj (Except.ok.inj h)
        exact .setTitle hd
      · exact (missing_ne_ok _ _ _ _ h).elim
    · exact (missing_ne_ok _ _ _ _ h).elim
  | addOption option => exact .addOption h
  | setComment comment? => exact .setComment h
  | addSlideQualifier slide =>
    simp only [change] at h
    split at h
    · cases h
      exact .addSlideQualifier
    · exact (missing_ne_ok _ _ _ _ h).elim
  | addSource source =>
    simp only [change] at h
    split at h
    · split at h
      · next hcode =>
        cases h
        exact .addSource hcode
      · exact (missing_ne_ok _ _ _ _ h).elim
    · exact (missing_ne_ok _ _ _ _ h).elim

lemma eq_mark_of_markUnlessOwn {o : Object} {name : String} {value : Atom}
    (h : s.markUnlessOwn o name value = .ok t) : t = s.mark o name value := by
  rw [markUnlessOwn] at h
  split_ifs at h
  exact (Except.ok.inj h).symm

lemma assigns_of_assign {o : Object} {name : String} {value : Atom} (h : s.assign o name value = .ok t) :
    s.Assigns o name value t := by
  cases o with
  | node n =>
    simp only [assign] at h
    split at h
    · next hassign =>
      cases h
      exact .node hassign
    · obtain rfl := eq_mark_of_markUnlessOwn h
      exact .mark _ _ _
  | arguments a =>
    simp only [assign] at h
    split_ifs at h with hname
    · cases h
      exact hname ▸ .comment a value
    · obtain rfl := eq_mark_of_markUnlessOwn h
      exact .mark _ _ _
  | deck i =>
    simp only [assign] at h
    split_ifs at h with hname
    · cases h
      exact hname ▸ .outlineTitle i value
    · obtain rfl := eq_mark_of_markUnlessOwn h
      exact .mark _ _ _
  | settings i => cases h
  | kind k =>
    simp only [assign] at h
    split_ifs at h
    cases h
    exact .mark _ _ _

lemma exists_assigns {name : String} {value : Atom} (h : s.set e name value = .ok t) :
    ∃ o, e = .object o ∧ s.Assigns o name value t := by
  rw [set.eq_def] at h
  split at h
  · exact ⟨_, rfl, assigns_of_assign h⟩
  · split at h
    · cases h
    · exact (missing_ne_ok _ _ _ _ h).elim
  · exact (missing_ne_ok _ _ _ _ h).elim

lemma exists_of_assignSetting {field : String} {value : Datum} (h : s.assignSetting e field value = .ok t) :
    ∃ i d settings, e = .object (.deck i) ∧ s.workspace.deck? i = some d ∧
      (s.workspace.settingsAt d.settings).assign? field value = some settings ∧
      t = { s with workspace := { s.workspace with
              settings := s.workspace.settings.setIfInBounds d.settings settings } } := by
  rw [assignSetting.eq_def] at h
  split at h
  · split at h
    · next d hd =>
      split at h
      · next settings hassign =>
        cases h
        exact ⟨_, d, settings, rfl, hd, hassign, rfl⟩
      · cases h
    · exact (missing_ne_ok _ _ _ _ h).elim
  · exact (missing_ne_ok _ _ _ _ h).elim

end Session

/-- The state that an action ends in where it succeeds, and its result. -/
inductive Action.EndsIn (s : Session) : Action → Session → Entity → Prop
  | make (draft : Draft) : EndsIn s (.make draft) (s.withStore (s.store.create draft).1) (.node (s.store.create draft).2)
  | makeArguments (a : Arguments) :
      EndsIn s (.makeArguments a) { s with workspace := (s.workspace.addArguments a).1 }
        (.object (.arguments (s.workspace.addArguments a).2))
  | makeDeck {outlineTitle? : Option String} {source : SettingsSource} {t : Session} {x : Entity}
      (h : s.makeDeck outlineTitle? source = .ok (t, x)) : EndsIn s (.makeDeck outlineTitle? source) t x
  | makeCodeHeader (comment? : Option String) :
      EndsIn s (.makeCodeHeader comment?) (s.makeCodeHeader comment?).1 (s.makeCodeHeader comment?).2
  | change {on : String} {c : Change} {e x : Entity} {t : Session} (hon : s.lookup on = .ok e)
      (h : s.change e c = .ok (t, x)) : EndsIn s (.change on c) t x
  | look {on : String} {question : Look} {e x : Entity} (hon : s.lookup on = .ok e)
      (h : (s.look e question).outcome = .ok x) : EndsIn s (.look on question) s x
  | assign {on field : String} {value : Atom} {e : Entity} {t : Session} (hon : s.lookup on = .ok e)
      (h : s.set e field value = .ok t) : EndsIn s (.assign on field value) t .nothing
  | assignSetting {on field : String} {value : Datum} {e : Entity} {t : Session} (hon : s.lookup on = .ok e)
      (h : s.assignSetting e field value = .ok t) : EndsIn s (.assignSetting on field value) t .nothing
  | pushArgument {on value : String} {e : Entity} {a : ArgumentsRef} (hon : s.lookup on = .ok e)
      (ha : s.argumentsOf e "args" = .ok a) :
      EndsIn s (.pushArgument on value) (s.modifyArguments a (·.addRequired value)) .nothing
  | load {path : String} {file : Settings.File} {settings : Settings} (h : (Settings.load path file).2 = .ok settings) :
      EndsIn s (.load path file) { s with workspace := (s.workspace.addSettings settings).1 }
        (.object (.settings s.workspace.settings.size))
  | setUpLog (verbose : Bool) (debug? : Option String) (v : Value) :
      EndsIn s (.setUpLog verbose debug?) { s with logger := s.logger.setUp verbose debug? } (.value v)

section

variable {s t : Session} {x : Entity} {fault : Fault}

lemma Effect.session_ofResult {r : Except Fault (Session × Entity)} (h : (ofResult s r).outcome = .error fault) :
    (ofResult s r).session = s := by
  cases r with
  | error _ => rfl
  | ok result => cases h

lemma Effect.eq_error_of_ofResult {r : Except Fault (Session × Entity)} (h : (ofResult s r).outcome = .error fault) :
    r = .error fault := by
  cases r with
  | error _ =>
    cases h
    rfl
  | ok result => cases h

lemma Effect.eq_ok_of_ofResult {r : Except Fault (Session × Entity)} (ht : (ofResult s r).session = t)
    (h : (ofResult s r).outcome = .ok x) : r = .ok (t, x) := by
  cases r with
  | error _ => cases h
  | ok result =>
    cases h
    rw [← ht]
    rfl

lemma Action.session_run_of_error {action : Action} (h : (action.run s).outcome = .error fault) :
    (action.run s).session = s := by
  cases action with
  | make | makeArguments | makeCodeHeader | setUpLog => cases h
  | makeDeck | change | assign | assignSetting | pushArgument => exact Effect.session_ofResult h
  | look on question =>
    rw [Action.run_look]
    cases s.lookup on <;> rfl
  | load path file =>
    simp only [Action.run] at h ⊢
    split at h
    · cases h
    · rfl
  | fail | unknown => rfl

lemma Action.endsIn {action : Action} (ht : (action.run s).session = t) (h : (action.run s).outcome = .ok x) :
    action.EndsIn s t x := by
  cases action with
  | make draft =>
    cases ht
    cases h
    exact .make draft
  | makeArguments a =>
    cases ht
    cases h
    exact .makeArguments a
  | makeDeck outlineTitle? source => exact .makeDeck (Effect.eq_ok_of_ofResult ht h)
  | makeCodeHeader comment? =>
    cases ht
    cases h
    exact .makeCodeHeader comment?
  | change on c =>
    obtain ⟨e, hon, h⟩ := bind_eq_ok_iff.mp (Effect.eq_ok_of_ofResult ht h)
    exact .change hon h
  | look on question =>
    rw [Action.run_look] at ht h
    cases hon : s.lookup on with
    | error fault =>
      rw [hon] at h
      cases h
    | ok e =>
      rw [hon] at ht h
      cases ht
      exact .look hon h
  | assign on field value =>
    obtain ⟨e, hon, h⟩ := bind_eq_ok_iff.mp (Effect.eq_ok_of_ofResult ht h)
    obtain ⟨u, hu, h⟩ := bind_eq_ok_iff.mp h
    cases h
    exact .assign hon hu
  | assignSetting on field value =>
    obtain ⟨e, hon, h⟩ := bind_eq_ok_iff.mp (Effect.eq_ok_of_ofResult ht h)
    obtain ⟨u, hu, h⟩ := bind_eq_ok_iff.mp h
    cases h
    exact .assignSetting hon hu
  | pushArgument on value =>
    obtain ⟨e, hon, h⟩ := bind_eq_ok_iff.mp (Effect.eq_ok_of_ofResult ht h)
    obtain ⟨a, ha, h⟩ := bind_eq_ok_iff.mp h
    cases h
    exact .pushArgument hon ha
  | fail message => cases h
  | load path file =>
    simp only [Action.run] at ht h
    split at h
    · next settings hsettings =>
      rw [hsettings] at ht
      cases ht
      cases h
      exact .load hsettings
    · cases h
  | setUpLog verbose debug? =>
    cases ht
    cases h
    exact .setUpLog verbose debug? _
  | unknown on? word =>
    cases on? with
    | none => cases h
    | some on =>
      obtain ⟨e, -, h⟩ := bind_eq_ok_iff.mp h
      cases h

end

inductive Action.Leads (s : Session) : Action → Session → Prop
  | stay (action : Action) : Leads s action s
  | make (draft : Draft) : Leads s (.make draft) (s.withStore (s.store.create draft).1)
  | makeArguments (a : Arguments) : Leads s (.makeArguments a) { s with workspace := (s.workspace.addArguments a).1 }
  | makeDeck {outlineTitle? : Option String} {source : SettingsSource} {t : Session} {e : Entity}
      (h : s.makeDeck outlineTitle? source = .ok (t, e)) : Leads s (.makeDeck outlineTitle? source) t
  | makeCodeHeader (comment? : Option String) : Leads s (.makeCodeHeader comment?) (s.makeCodeHeader comment?).1
  | change {on : String} {c : Change} {e x : Entity} {t : Session} (hon : s.lookup on = .ok e)
      (h : s.change e c = .ok (t, x)) : Leads s (.change on c) t
  | assign {on field : String} {value : Atom} {e : Entity} {t : Session} (hon : s.lookup on = .ok e)
      (h : s.set e field value = .ok t) : Leads s (.assign on field value) t
  | assignSetting {on field : String} {value : Datum} {e : Entity} {t : Session} (hon : s.lookup on = .ok e)
      (h : s.assignSetting e field value = .ok t) : Leads s (.assignSetting on field value) t
  | pushArgument {on value : String} {e : Entity} {a : ArgumentsRef} (hon : s.lookup on = .ok e)
      (ha : s.argumentsOf e "args" = .ok a) : Leads s (.pushArgument on value) (s.modifyArguments a (·.addRequired value))
  | load (path : String) (file : Settings.File) (settings : Settings) :
      Leads s (.load path file) { s with workspace := (s.workspace.addSettings settings).1 }
  | setUpLog (verbose : Bool) (debug? : Option String) :
      Leads s (.setUpLog verbose debug?) { s with logger := s.logger.setUp verbose debug? }

lemma Action.leads (s : Session) (action : Action) : action.Leads s (action.run s).session := by
  cases houtcome : (action.run s).outcome with
  | error fault =>
    rw [session_run_of_error houtcome]
    exact .stay action
  | ok x =>
    have hends := endsIn rfl houtcome
    generalize (action.run s).session = t at hends ⊢
    cases hends with
    | make draft => exact .make draft
    | makeArguments a => exact .makeArguments a
    | makeDeck h => exact .makeDeck h
    | makeCodeHeader comment? => exact .makeCodeHeader comment?
    | change hon h => exact .change hon h
    | look => exact .stay _
    | assign hon h => exact .assign hon h
    | assignSetting hon h => exact .assignSetting hon h
    | pushArgument hon ha => exact .pushArgument hon ha
    | @load path file settings => exact .load path file settings
    | setUpLog verbose debug? => exact .setUpLog verbose debug?

end SlideDeck.Script
