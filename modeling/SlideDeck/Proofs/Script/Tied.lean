import SlideDeck.Proofs.Script.Ownership
import SlideDeck.Proofs.Script.Questions
import SlideDeck.Script.Action

/-! Two sessions with the same objects at other places stay so whatever is done in both of them. -/

namespace SlideDeck.Script

def Session.Tied.Results {α : Type} (T : Tie) (f : α → α) (a b : Session × α) : Prop :=
  a.1.Tied T b.1 ∧ b.2 = f a.2

lemma Tie.Settings.assign? {T : Tie} {i : ℕ} {x y : LooseSettings} (h : T.Settings i x y) (field : String)
    (value : Datum) : Option.Rel (T.Settings i) (x.assign? field value) (y.assign? field value) := by
  obtain ⟨⟨hindent, hcomment⟩, hsame⟩ := h
  simp only [LooseSettings.assign?.eq_def]
  split
  case h_6 => exact .none
  all_goals
    refine .some ⟨⟨?_, ?_⟩, hsame.imp_left fun heq => by rw [heq]⟩
    · first | exact hindent | rfl
    · first | exact hcomment | rfl

def SettingsSource.names : SettingsSource → List String
  | .shared name => [name]
  | .standard | .data _ => []

def Look.names : Look → List String
  | .equal other => [other]
  | _ => []

def Action.names : Action → List String
  | .makeDeck _ source => source.names
  | .change on _ | .assign on _ _ | .assignSetting on _ _ | .pushArgument on _ => [on]
  | .look on question => on :: question.names
  | .unknown on? _ => on?.toList
  | .make _ | .makeArguments _ | .makeCodeHeader _ | .fail _ | .load _ _ | .setUpLog _ _ => []

def Construction.names : Construction → List String
  | .deck _ source => source.names
  | .adopt on node _ => [on, node]
  | .child on _ | .head on => [on]

def Pending.relocate (r : Relocation) (p : Pending) : Pending where
  subject := p.subject.relocate r
  target? := p.target?.map fun (container, place) => (r.node container, place)

structure Action.Allowed (T : Tie) (action : Action) (s : Session) : Prop where
  reads : ∀ name ∈ action.names, s.Reads T name
  keeps : ∀ on name, action = .look on (.field name) → ∀ o, s.lookup on = .ok (.object o) → T.Keeps o name
  shows : ∀ on question, action = .look on question → ∀ e, s.lookup on = .ok e →
    ∀ i, (s.look e question).outcome = .ok (.object (.settings i)) → ¬ T.parted i

structure Effect.Tied (T : Tie) (x y : Effect) : Prop where
  session : x.session.Tied T y.session
  records : y.records = x.records
  outcome : Agree (fun e e' => e' = e.relocate T ∧ Session.Tied.Shows T x.session y.session e) x.outcome y.outcome

namespace Session

variable {s t : Session} {e x : Entity}

lemma ne_settings_of_changeArguments {method : Method} {f : Arguments → Arguments}
    (h : s.changeArguments e method f = .ok (t, x)) (i : ℕ) : x ≠ .object (.settings i) := by
  obtain ⟨a, ha, h⟩ := bind_eq_ok_iff.mp h
  rintro rfl
  cases e with
  | object o => cases o <;> cases h; cases ha
  | _ => cases ha

lemma ne_settings_of_change {c : Change} (h : s.change e c = .ok (t, x)) (i : ℕ) : x ≠ .object (.settings i) := by
  cases changes h with
  | addOption h => exact ne_settings_of_changeArguments h i
  | setComment h => exact ne_settings_of_changeArguments h i
  | headings | setTitle | addSlideQualifier | addSource => rintro ⟨⟩

lemma ne_settings_of_makeDeck {outlineTitle? : Option String} {source : SettingsSource}
    (h : s.makeDeck outlineTitle? source = .ok (t, x)) (i : ℕ) : x ≠ .object (.settings i) := by
  obtain ⟨⟨u, place⟩, -, h⟩ := bind_eq_ok_iff.mp h
  simp only at h
  split at h <;> cases h
  rintro ⟨⟩

lemma ne_settings_of_start {construction : Construction} {p : Pending}
    (h : construction.start s = .ok (t, p)) (i : ℕ) : p.subject ≠ .object (.settings i) := by
  cases Construction.begins h with
  | deck hmake => exact ne_settings_of_makeDeck hmake i
  | adopt | child | head => rintro ⟨⟩

end Session

namespace Session.Tied

variable {T : Tie} {s t : Session}

section

variable (h : s.Tied T t)

include h

lemma withStore {u v : Store} (huv : u.Embeds T.node v) : (s.withStore u).Tied T (t.withStore v) :=
  { h with store := huv }

lemma bind (name? : Option String) {e e' : Entity}
    (hentry : ∀ name ∈ name?, e' = e.relocate T ∨ T.veils name e e') :
    (s.bind name? e).Tied T (t.bind name? e') := by
  cases name? with
  | none => exact h
  | some name =>
    refine { h with names := ?_ }
    have hnames := h.names
    simp only [Session.bind]
    generalize s.names = l, t.names = l' at hnames
    induction hnames with
    | nil => exact .cons ⟨rfl, hentry name rfl⟩ .nil
    | @cons x y _ _ hhead hrest ih =>
      rw [bindName, bindName, hhead.1]
      split
      · exact .cons ⟨rfl, hentry name rfl⟩ hrest
      · exact .cons hhead ih

lemma bind_relocate (name? : Option String) (e : Entity) :
    (s.bind name? e).Tied T (t.bind name? (e.relocate T)) := h.bind name? fun _ _ => .inl rfl

lemma conclude (result? : Option String) {e : Entity} (hshows : Shows T s t e) :
    (s.conclude result? e).1.Tied T (t.conclude result? (e.relocate T)).1 ∧
      (t.conclude result? (e.relocate T)).2 = (s.conclude result? e).2 := by
  have hbound := h.bind_relocate result? (e.named result?)
  rw [Session.conclude, Session.conclude, ← Entity.named_relocate]
  refine ⟨hbound, hbound.present _ fun i hi => ?_⟩
  have he : e = .object (.settings i) := by
    cases e with
    | value v => cases v <;> cases hi
    | _ => exact hi
  have hsame := hshows i he
  cases result? <;> exact hsame

lemma modifyArguments (a : ArgumentsRef) (f : Arguments → Arguments) :
    (s.modifyArguments a f).Tied T (t.modifyArguments (a.relocate T) f) := by
  cases a with
  | ofNode n =>
    exact h.withStore (h.store.modify n fun x => by simp only [Node.mapArguments, Node.mapContent, Node.rename,
      Content.mapArguments_rename])
  | free i => exact { h with arguments := congrArg (fun a : Array Arguments => a.modify i f) h.arguments }

lemma argumentsOf (e : Entity) (field : String) :
    t.argumentsOf (e.relocate T) field = (s.argumentsOf e field).map (ArgumentsRef.relocate T) := by
  have hmissing : (t.missing (e.relocate T) field : Except Fault ArgumentsRef) =
      (s.missing e field).map (ArgumentsRef.relocate T) := h.missing e field
  cases e with
  | object o =>
    cases o with
    | node n =>
      simp only [Entity.relocate, Object.relocate] at hmissing
      simp only [Session.argumentsOf, Entity.relocate, Object.relocate, h.kind, hmissing]
      split <;> rfl
    | arguments a => rfl
    | _ => exact hmissing
  | _ => exact hmissing

lemma changeArguments (e : Entity) (method : Method) (f : Arguments → Arguments) :
    Agree (Results T (Entity.relocate T)) (s.changeArguments e method f)
      (t.changeArguments (e.relocate T) method f) := by
  refine Agree.bind_map (h.argumentsOf e method.name) fun a _ => ?_
  refine .ok ⟨h.modifyArguments a f, ?_⟩
  cases e with
  | object o => cases o <;> rfl
  | _ => rfl

lemma change (e : Entity) (c : Change) :
    Agree (Results T (Entity.relocate T)) (s.change e c) (t.change (e.relocate T) c) := by
  have hmissing (field : String) : Agree (Results T (Entity.relocate T))
      (s.missing e field : Except Fault (Session × Entity)) (t.missing (e.relocate T) field) := by
    rw [h.missing]
    exact .error _
  cases c with
  | headings name? sub? =>
    refine Agree.bind_map (h.containerFor e _) fun c _ => ?_
    exact .ok ⟨h.withStore (h.store.createAllIn _ _), rfl⟩
  | setTitle title author date? subtitle? =>
    cases e with
    | object o =>
      cases o with
      | deck i =>
        have hmissing := hmissing (Change.setTitle title author date? subtitle?).method.name
        simp only [Session.change, Entity.relocate, Object.relocate] at hmissing ⊢
        obtain ⟨hd, he⟩ | ⟨d, e, hd, he, heq, -⟩ := h.deck?_cases i
        · simp only [hd, he]
          exact hmissing
        · simp only [hd, he]
          rw [heq]
          exact .ok ⟨h.withStore (Deck.embeds_setTitle h.store rfl rfl _ _ _ _), rfl⟩
      | _ => exact hmissing _
    | _ => exact hmissing _
  | addOption option => exact h.changeArguments e _ _
  | setComment comment? => exact h.changeArguments e _ _
  | addSlideQualifier slide =>
    cases e with
    | object o =>
      cases o with
      | node n => exact .ok ⟨h.withStore (h.store.modify n fun x => rfl), rfl⟩
      | _ => exact hmissing _
    | _ => exact hmissing _
  | addSource source =>
    cases e with
    | object o =>
      cases o with
      | node n =>
        have hmissing := hmissing (Change.addSource source).method.name
        simp only [Session.change, Entity.relocate, Object.relocate, h.content] at hmissing ⊢
        cases (s.store.node n).content with
        | code title language listing => exact .ok ⟨h.withStore (h.store.createAllIn listing _), rfl⟩
        | _ => exact hmissing
      | _ => exact hmissing _
    | _ => exact hmissing _

lemma setOutlineTitle (i : ℕ) (title : Atom) :
    (s.setOutlineTitle i title).Tied T (t.setOutlineTitle (T.deck i) title) := by
  have hdecks := h.decks.modify (i := i) (g := fun deck => { deck with outlineTitle := title })
    (k := fun deck => { deck with outlineTitle := title }) fun d e hde => by
      obtain ⟨heq, -⟩ := hde
      rw [heq]
      exact ⟨rfl, .inl rfl⟩
  exact { h with decks := hdecks }

lemma mark (o : Object) (field : String) (value : Atom) :
    (s.mark o field value).Tied T (t.mark (o.relocate T) field value) := by
  have hkept : t.marks.filter (·.1 ≠ (o.relocate T, field)) = (s.marks.filter (·.1 ≠ (o, field))).map T.mark := by
    rw [h.marks, List.filter_map]
    congr 2
    funext m
    simp only [Function.comp_apply, Tie.mark, ne_eq, decide_not, Object.relocate_inj, Prod.ext_iff]
  exact { h with marks := congrArg (((o.relocate T, field), value) :: ·) hkept }

lemma reserves (o : Object) (name : String) : t.reserves (o.relocate T) name = s.reserves o name := by
  cases o with
  | node n => simp only [Session.reserves, Object.relocate, h.kind]
  | _ => rfl

lemma markUnlessOwn (o : Object) (name : String) (value : Atom) :
    Agree (Session.Tied T) (s.markUnlessOwn o name value) (t.markUnlessOwn (o.relocate T) name value) := by
  rw [Session.markUnlessOwn, Session.markUnlessOwn, h.isSome_ownField?, h.reserves, h.typeName_object]
  split
  · exact .error _
  · exact .ok (h.mark o name value)

lemma assign (o : Object) (name : String) (value : Atom) :
    Agree (Session.Tied T) (s.assign o name value) (t.assign (o.relocate T) name value) := by
  have hmarked := h.markUnlessOwn o name value
  cases o with
  | node n =>
    simp only [Session.assign, Object.relocate, h.store.node, Node.assign?_rename]
    cases (s.store.node n).assign? name value with
    | none => exact hmarked
    | some node => exact .ok (h.withStore (h.store.modify n fun x => rfl))
  | arguments a =>
    simp only [Session.assign, Object.relocate]
    split
    · exact .ok (h.modifyArguments a _)
    · exact hmarked
  | deck i =>
    simp only [Session.assign, Object.relocate]
    split
    · exact .ok (h.setOutlineTitle i _)
    · exact hmarked
  | settings i => exact .error _
  | kind k =>
    simp only [Session.assign.eq_def, Object.relocate]
    split
    · exact .error _
    · exact .ok (h.mark (.kind k) name value)

lemma set (e : Entity) (name : String) (value : Atom) :
    Agree (Session.Tied T) (s.set e name value) (t.set (e.relocate T) name value) := by
  have hmissing : Agree (Session.Tied T) (s.missing e name : Except Fault Session)
      (t.missing (e.relocate T) name) := by
    rw [h.missing]
    exact .error _
  cases e with
  | object o => exact h.assign o name value
  | value v =>
    cases v with
    | atom a =>
      cases a with
      | text body =>
        simp only [Session.set, Entity.relocate] at hmissing ⊢
        split
        · exact .error _
        · exact hmissing
      | _ => exact hmissing
    | _ => exact hmissing
  | _ => exact hmissing

lemma assignSetting (e : Entity) (field : String) (value : Datum) :
    Agree (Session.Tied T) (s.assignSetting e field value) (t.assignSetting (e.relocate T) field value) := by
  have hmissing : Agree (Session.Tied T) (s.missing e "config" : Except Fault Session)
      (t.missing (e.relocate T) "config") := by
    rw [h.missing]
    exact .error _
  cases e with
  | object o =>
    cases o with
    | deck i =>
      simp only [Session.assignSetting, Entity.relocate, Object.relocate] at hmissing ⊢
      obtain ⟨hd, he⟩ | ⟨d, e, hd, he, heq, -⟩ := h.deck?_cases i
      · simp only [hd, he]
        exact hmissing
      · simp only [hd, he]
        rw [heq]
        have hassigned := (h.settingsAt d.settings).assign? field value
        simp only [Deck.relocate]
        generalize (s.workspace.settingsAt d.settings).assign? field value = x?,
          (t.workspace.settingsAt (T.settings d.settings)).assign? field value = y? at hassigned
        cases hassigned with
        | none => exact .error _
        | some hassigned => exact .ok { h with settings := h.settings.setIfInBounds hassigned }
    | _ => exact hmissing
  | _ => exact hmissing

lemma makeCodeHeader (comment? : Option String) :
    Results T (Entity.relocate T) (s.makeCodeHeader comment?) (t.makeCodeHeader comment?) := by
  have hmade := h.store.create .header
  rw [Session.makeCodeHeader, Session.makeCodeHeader, Deck.makeCodeHeader, Deck.makeCodeHeader]
  generalize s.store.create .header = made, t.store.create .header = made' at hmade
  simp only [hmade.2]
  exact ⟨h.withStore (hmade.1.createAllIn made.2 _), rfl⟩

lemma addSettings (settings : Settings) :
    let added (s : Session) : Session := { s with workspace := (s.workspace.addSettings settings).1 }
    (added s).Tied T (added t) ∧
      (t.workspace.addSettings settings).2 = T.settings (s.workspace.addSettings settings).2 ∧
      (added t).workspace.settingsAt (T.settings (s.workspace.addSettings settings).2) =
        (added s).workspace.settingsAt (s.workspace.addSettings settings).2 := by
  have hplace : T.settings s.workspace.settings.size = t.workspace.settings.size := h.settings.beyond 0
  refine ⟨{ h with settings := h.settings.push ⟨.refl _, .inl rfl⟩ }, hplace.symm, ?_⟩
  simp [Workspace.addSettings, Workspace.settingsAt, hplace]

lemma takeSettings {source : SettingsSource} (hreads : ∀ name ∈ source.names, s.Reads T name) :
    Agree (fun a b => a.1.Tied T b.1 ∧ b.2 = T.settings a.2 ∧
        b.1.workspace.settingsAt b.2 = a.1.workspace.settingsAt a.2)
      (s.takeSettings source) (t.takeSettings source) := by
  have hadded (settings : Settings) : Agree (fun a b => a.1.Tied T b.1 ∧ b.2 = T.settings a.2 ∧
        b.1.workspace.settingsAt b.2 = a.1.workspace.settingsAt a.2)
      (.ok ({ s with workspace := (s.workspace.addSettings settings).1 }, (s.workspace.addSettings settings).2) :
        Except Fault (Session × ℕ))
      (.ok ({ t with workspace := (t.workspace.addSettings settings).1 }, (t.workspace.addSettings settings).2)) := by
    obtain ⟨htied, hplace, hsame⟩ := h.addSettings settings
    exact .ok ⟨htied, hplace, by rw [hplace]; exact hsame⟩
  cases source with
  | standard => exact hadded {}
  | shared name =>
    have hname := hreads name (by simp [SettingsSource.names])
    refine Agree.bind_map (h.lookup hname) fun e he => ?_
    have hother : Agree (fun a b => a.1.Tied T b.1 ∧ b.2 = T.settings a.2 ∧
          b.1.workspace.settingsAt b.2 = a.1.workspace.settingsAt a.2)
        (if s.isFalse e then .ok s.takeStandardSettings else s.missing e "document_class" :
          Except Fault (Session × ℕ))
        (if t.isFalse (e.relocate T) then .ok t.takeStandardSettings
          else t.missing (e.relocate T) "document_class") := by
      rw [h.isFalse, h.missing]
      split
      · exact hadded {}
      · exact .error _
    cases e with
    | object o =>
      cases o with
      | settings i => exact .ok ⟨h, rfl, h.shows_of_reads hname he i rfl⟩
      | _ => exact hother
    | _ => exact hother
  | data datum =>
    simp only [Session.takeSettings]
    split
    · exact hadded _
    · exact .error _

lemma makeDeck (outlineTitle? : Option String) {source : SettingsSource}
    (hreads : ∀ name ∈ source.names, s.Reads T name) :
    Agree (Results T (Entity.relocate T)) (s.makeDeck outlineTitle? source) (t.makeDeck outlineTitle? source) := by
  refine (h.takeSettings hreads).bind fun a b _ hab => ?_
  obtain ⟨htied, hplace, hsame⟩ := hab
  have hbuild := Deck.embeds_build htied.store (a.1.workspace.settingsAt a.2) a.2 b.2 outlineTitle?
  simp only [Workspace.addDeck, hsame]
  change Agree _ (Deck.build a.1.store _ _ _) (Deck.build b.1.store _ _ _) at hbuild
  simp only [Session.store] at hbuild
  generalize Deck.build a.1.workspace.store _ a.2 outlineTitle? = x,
    Deck.build b.1.workspace.store _ b.2 outlineTitle? = y at hbuild
  cases hbuild with
  | error cause => exact .error _
  | ok hbuilt =>
    obtain ⟨hstore, hdeck, htitle, hsettings⟩ := hbuilt
    have hsize : T.deck a.1.workspace.decks.size = b.1.workspace.decks.size := htied.decks.beyond 0
    refine .ok ⟨{ htied with store := hstore, decks := htied.decks.push ?_ }, ?_⟩
    · rw [hdeck]
      exact ⟨by rw [hplace, ← hsettings]; rfl, .inl rfl⟩
    · simp only [← hsize]
      rfl

lemma checkFree (n : NodeId) : Agree (fun _ _ => True) (s.checkFree n) (t.checkFree (T.node n)) := by
  rw [Session.checkFree, Session.checkFree, h.store.owned?]
  split
  · exact .error _
  · exact .ok trivial

lemma start {construction : Construction} (hreads : ∀ name ∈ construction.names, s.Reads T name) :
    Agree (Results T (Pending.relocate T)) (construction.start s) (construction.start t) := by
  cases construction with
  | deck outlineTitle? source =>
    refine (h.makeDeck outlineTitle? hreads).bind fun a b _ hab => ?_
    exact .ok ⟨hab.1, by rw [hab.2]; rfl⟩
  | adopt on node place =>
    refine Agree.bind_map (h.lookup (hreads on (by simp [Construction.names]))) fun e _ => ?_
    refine Agree.bind_map (h.containerFor e _) fun c _ => ?_
    refine Agree.bind_map (h.lookup (hreads node (by simp [Construction.names]))) fun x _ => ?_
    have hmissing : Agree (Results T (Pending.relocate T))
        (s.missing x "parent" : Except Fault (Session × Pending)) (t.missing (x.relocate T) "parent") := by
      rw [h.missing]
      exact .error _
    cases x with
    | object o =>
      cases o with
      | node n =>
        exact (h.checkFree n).bind fun _ _ _ _ => .ok ⟨h, rfl⟩
      | _ => exact hmissing
    | _ => exact hmissing
  | child on builder =>
    refine Agree.bind_map (h.lookup (hreads on (by simp [Construction.names]))) fun e _ => ?_
    refine Agree.bind_map (h.containerFor e _) fun c _ => ?_
    rw [h.kind]
    have hmade := h.store.create (builder.draft (s.store.kind c))
    generalize s.store.create (builder.draft (s.store.kind c)) = made,
      t.store.create (builder.draft (s.store.kind c)) = made' at hmade
    refine .ok ⟨h.withStore hmade.1, ?_⟩
    simp only [hmade.2]
    rfl
  | head on =>
    refine Agree.bind_map (h.lookup (hreads on (by simp [Construction.names]))) fun e _ => ?_
    refine Agree.bind_map (h.containerFor e _) fun c _ => ?_
    exact .ok ⟨h, rfl⟩

lemma finish (p : Pending) : Agree (Session.Tied T) (p.finish s) ((p.relocate T).finish t) := by
  obtain ⟨subject, target?⟩ := p
  cases subject with
  | object o =>
    cases o with
    | node n =>
      cases target? with
      | none => exact .ok h
      | some target =>
        exact (h.checkFree n).bind fun _ _ _ _ => .ok (h.withStore (h.store.link _ _ _))
    | _ => cases target? <;> exact .ok h
  | _ => cases target? <;> exact .ok h

lemma ofResult {x y : Except Fault (Session × Entity)}
    (hxy : Agree (fun a b => Results T (Entity.relocate T) a b ∧ Shows T a.1 b.1 a.2) x y) :
    Effect.Tied T (.ofResult s x) (.ofResult t y) := by
  cases hxy with
  | ok hab => exact ⟨hab.1.1, rfl, .ok ⟨hab.1.2, hab.2⟩⟩
  | error fault => exact ⟨h, rfl, .error fault⟩

lemma ofLookup {on : String} (hreads : s.Reads T on) {f g : Entity → Except Fault (Session × Entity)}
    (hfg : ∀ e, Agree (fun a b => Results T (Entity.relocate T) a b ∧ Shows T a.1 b.1 a.2) (f e) (g (e.relocate T))) :
    Effect.Tied T (.ofResult s (s.lookup on >>= f)) (.ofResult t (t.lookup on >>= g)) := by
  exact h.ofResult (Agree.bind_map (h.lookup hreads) fun e _ => hfg e)

theorem run_action {action : Action} (hallowed : action.Allowed T s) (hlog : ∀ v d, action ≠ .setUpLog v d) :
    (action.run s).Tied T (action.run t) := by
  have hplain {s t : Session} {e : Entity} (he : ∀ i, e ≠ .object (.settings i)) : Shows T s t e :=
    fun i hi => absurd hi (he i)
  cases action with
  | make draft =>
    have hmade := h.store.create draft
    simp only [Action.run]
    generalize s.store.create draft = made, t.store.create draft = made' at hmade
    exact ⟨h.withStore hmade.1, rfl, .ok ⟨by rw [hmade.2]; rfl, hplain (by simp [Entity.node])⟩⟩
  | makeArguments a =>
    have hsize : t.workspace.arguments.size = s.workspace.arguments.size := by rw [h.arguments]
    refine ⟨{ h with arguments := congrArg (·.push a) h.arguments }, rfl, .ok ⟨?_, hplain (by simp)⟩⟩
    simp only [hsize]
    rfl
  | makeDeck outlineTitle? source =>
    refine h.ofResult ((h.makeDeck outlineTitle? hallowed.reads).mono fun a b ha hab => ⟨hab, ?_⟩)
    exact hplain (ne_settings_of_makeDeck ha)
  | makeCodeHeader comment? =>
    obtain ⟨htied, hresult⟩ := h.makeCodeHeader comment?
    exact ⟨htied, rfl, .ok ⟨hresult, hplain (by simp [Entity.node])⟩⟩
  | change on c =>
    refine h.ofLookup (hallowed.reads on (by simp [Action.names])) fun e => ?_
    exact (h.change e c).mono fun a b ha hab => ⟨hab, hplain (ne_settings_of_change ha)⟩
  | look on question =>
    have hreads := hallowed.reads on (by simp [Action.names])
    simp only [Action.run_look, h.lookup hreads]
    cases he : s.lookup on with
    | error fault => exact ⟨h, rfl, .error _⟩
    | ok e =>
      have hasks : Asks T s e question := by
        cases question with
        | equal other => exact hallowed.reads other (by simp [Action.names, Look.names])
        | field name => exact fun o ho => hallowed.keeps on name rfl o (ho ▸ he)
        | _ => trivial
      simp only [Except.map, h.look (h.shows_of_reads hreads he) hasks]
      refine ⟨h, rfl, (Agree.of_map _ _).mono fun x x' hx heq => ⟨heq, h.shows fun i hi => ?_⟩⟩
      exact hallowed.shows on question rfl e he i (hi ▸ hx)
  | assign on field value =>
    refine h.ofLookup (hallowed.reads on (by simp [Action.names])) fun e => ?_
    exact (h.set e field value).bind fun a b _ hab => .ok ⟨⟨hab, rfl⟩, hplain (by simp [Entity.nothing, Entity.atom])⟩
  | assignSetting on field value =>
    refine h.ofLookup (hallowed.reads on (by simp [Action.names])) fun e => ?_
    exact (h.assignSetting e field value).bind fun a b _ hab =>
      .ok ⟨⟨hab, rfl⟩, hplain (by simp [Entity.nothing, Entity.atom])⟩
  | pushArgument on value =>
    refine h.ofLookup (hallowed.reads on (by simp [Action.names])) fun e => ?_
    refine Agree.bind_map (h.argumentsOf e "args") fun a _ => ?_
    exact .ok ⟨⟨h.modifyArguments a _, rfl⟩, hplain (by simp [Entity.nothing, Entity.atom])⟩
  | fail message => exact ⟨h, rfl, .error _⟩
  | load path file =>
    simp only [Action.run]
    split
    · next settings _ =>
      obtain ⟨htied, hplace, hsame⟩ := h.addSettings settings
      refine ⟨htied, rfl, .ok ⟨by rw [hplace]; rfl, fun i hi => ?_⟩⟩
      cases hi
      exact hsame
    · exact ⟨h, rfl, .error _⟩
  | setUpLog verbose debug? => exact absurd rfl (hlog verbose debug?)
  | unknown on? word =>
    cases on? with
    | none => exact ⟨h, rfl, .error _⟩
    | some on =>
      have hlookup := h.lookup (hallowed.reads on (by simp [Action.names]))
      refine ⟨h, rfl, ?_⟩
      simp only [Action.run, hlookup]
      cases s.lookup on <;> exact .error _

end

end Session.Tied

end SlideDeck.Script
