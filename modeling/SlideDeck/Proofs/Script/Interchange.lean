import SlideDeck.Proofs.Script.Attached

/-! Steps that keep to a region commute with an attachment to a container outside it. -/

namespace SlideDeck

namespace Node

lemma assign?_withParent (parent? : Option NodeId) (node : Node) (name : String) (value : Atom) :
    { node with parent? }.assign? name value = (node.assign? name value).map ({ · with parent? }) := by
  rw [assign?, assign?]
  split_ifs
  · rfl
  · simp only [Option.map_map]
    rfl
  · simp only [Option.map_map]
    rfl

lemma ignoresParent_assign? (name : String) (value : Atom) :
    IgnoresParent fun node => (node.assign? name value).getD node := by
  intro c node
  simp only [heldBy, assign?_withParent]
  cases node.assign? name value <;> rfl

end Node

lemma Store.modify_congr {s : Store} {n : NodeId} {f g : Node → Node} (h : f (s.node n) = g (s.node n)) :
    s.modify n f = s.modify n g := by
  refine ext_node (by simp) fun m => ?_
  rw [node_modify, node_modify]
  split_ifs with hm
  · rwa [← hm.1]
  · rfl

namespace Script

namespace Session

variable {a : Attachment} {s : Session} {u v : Store}

lemma withStore_attach (h : a.Joins u v) : (s.attach a).withStore v = (s.withStore u).attach a := by
  rw [h.eq]
  rfl

lemma assignSetting_attach (a : Attachment) (s : Session) (e : Entity) (field : String) (value : Datum) :
    (s.attach a).assignSetting e field value = (s.assignSetting e field value).map (·.attach a) := by
  cases e with
  | object o =>
    cases o with
    | deck i =>
      simp only [assignSetting, missing_attach, deck?_attach, settingsAt_attach]
      cases s.workspace.deck? i with
      | none => rfl
      | some d =>
        simp only
        cases (s.workspace.settingsAt d.settings).assign? field value <;> rfl
    | _ => simp only [assignSetting, missing_attach]; rfl
  | _ => simp only [assignSetting, missing_attach]; rfl

lemma inside_argumentsOf {inside : NodeId → Prop} {e : Entity} (he : e.Inside s.workspace inside)
    {field : String} {ref : ArgumentsRef} (hof : s.argumentsOf e field = .ok ref) :
    (Entity.object (.arguments ref)).Inside s.workspace inside := by
  rw [argumentsOf.eq_def] at hof
  split at hof
  · cases hof
    exact he
  · split at hof
    · cases hof
      exact he
    · exact (missing_ne_ok _ _ _ _ hof).elim
  · exact (missing_ne_ok _ _ _ _ hof).elim

end Session

def Effect.attach (a : Attachment) (effect : Effect) : Effect :=
  { effect with session := effect.session.attach a }

def attachResult (a : Attachment) : Except Fault (Session × Entity) → Except Fault (Session × Entity) :=
  Except.map fun (t, x) => (t.attach a, x)

lemma Effect.ofResult_attach (a : Attachment) (s : Session) (r : Except Fault (Session × Entity)) :
    Effect.ofResult (s.attach a) (attachResult a r) = (Effect.ofResult s r).attach a := by
  cases r <;> rfl

lemma Effect.ofResult_bind_attach {α : Type} {a : Attachment} {s : Session} {x : Except Fault α}
    {f g : α → Except Fault (Session × Entity)} (h : ∀ e, x = .ok e → g e = attachResult a (f e)) :
    Effect.ofResult (s.attach a) (x >>= g) = (Effect.ofResult s (x >>= f)).attach a := by
  cases x with
  | error fault => rfl
  | ok e => exact (congrArg (Effect.ofResult (s.attach a)) (h e rfl)).trans (ofResult_attach a s (f e))

namespace Session

variable {a : Attachment} {s : Session}

lemma checkFree_attach {m : NodeId} (hn : a.node < s.store.size) (hne : m ≠ a.node) :
    (s.attach a).checkFree m = s.checkFree m := by
  have hparent : (s.attach a).store.parent? m = s.store.parent? m := by
    rw [store_attach, Attachment.apply, Store.parent?_link _ _ _ hn, if_neg hne]
  simp only [checkFree, Store.owned?, hparent, kind_attach]

lemma answer_attach (a : Attachment) (s : Session) (result? : Option String) (effect : Effect) :
    (s.attach a).answer result? (effect.attach a) =
      ((s.answer result? effect).1.attach a, (s.answer result? effect).2) := by
  rw [answer, answer, Effect.attach]
  cases effect.outcome with
  | error fault => rfl
  | ok e =>
    simp only [conclude_attach]
    rfl

end Session

namespace Attachment.Apart

variable {a : Attachment} {inside : NodeId → Prop} {s : Session} {e : Entity}

section

variable (h : a.Apart inside s)

include h

lemma modifyArguments {ref : ArgumentsRef} (href : (Entity.object (.arguments ref)).Inside s.workspace inside)
    (f : Arguments → Arguments) : (s.attach a).modifyArguments ref f = (s.modifyArguments ref f).attach a := by
  cases ref with
  | ofNode m => exact Session.withStore_attach (h.joins.modify (h.ne_container href) fun _ _ => rfl)
  | free i => rfl

lemma changeArguments (he : e.Inside s.workspace inside) (method : Method) (f : Arguments → Arguments) :
    (s.attach a).changeArguments e method f = attachResult a (s.changeArguments e method f) := by
  rw [Session.changeArguments.eq_def, Session.changeArguments.eq_def, Session.argumentsOf_attach]
  cases hof : s.argumentsOf e method.name with
  | error fault => rfl
  | ok ref =>
    exact congrArg (fun t => Except.ok (t, _)) (h.modifyArguments (Session.inside_argumentsOf he hof) f)

lemma change (he : e.Inside s.workspace inside) (c : Change) :
    (s.attach a).change e c = attachResult a (s.change e c) := by
  cases c with
  | headings name? sub? =>
    simp only [Session.change, Session.containerFor_attach]
    cases hc : s.containerFor e (Change.headings name? sub?).method with
    | error fault => rfl
    | ok c =>
      have hne := h.ne_container (Session.inside_of_containerFor he hc)
      simp only [bind, Except.bind, attachResult, Except.map]
      rw [Session.withStore_attach (h.joins.createAllIn hne _)]
  | setTitle title author date? subtitle? =>
    cases e with
    | object o =>
      cases o with
      | deck i =>
        simp only [Session.change, Session.missing_attach, Session.deck?_attach]
        cases hd : s.workspace.deck? i with
        | none => rfl
        | some d =>
          obtain ⟨hdocument, -, hheader⟩ := he d hd
          have hjoins := h.joins.setTitle (h.ne_container hheader) (h.ne_container hdocument) title author
            date? subtitle?
          simp only [Session.withStore_attach hjoins]
          rfl
      | _ => simp only [Session.change, Session.missing_attach]; rfl
    | _ => simp only [Session.change, Session.missing_attach]; rfl
  | addOption option => exact h.changeArguments he _ _
  | setComment comment? => exact h.changeArguments he _ _
  | addSlideQualifier slide =>
    cases e with
    | object o =>
      cases o with
      | node m =>
        have hjoins := h.joins.modify (h.ne_container he) (g := fun node => { node with slides? := some (.int slide) })
          fun _ _ => rfl
        simp only [Session.change, Session.withStore_attach hjoins]
        rfl
      | _ => simp only [Session.change, Session.missing_attach]; rfl
    | _ => simp only [Session.change, Session.missing_attach]; rfl
  | addSource source =>
    cases e with
    | object o =>
      cases o with
      | node m =>
        simp only [Session.change, Session.missing_attach, Session.content_attach]
        cases hcontent : (s.store.node m).content with
        | code title language listing =>
          have hlisting := h.closed.wellFormed.store.listing m listing (by rw [hcontent]; rfl)
          have hne := h.ne_container (h.closed.below listing m hlisting.1 he)
          simp only [Session.addSource, Session.withStore_attach (h.joins.createAllIn hne _)]
          rfl
        | _ => rfl
      | _ => simp only [Session.change, Session.missing_attach]; rfl
    | _ => simp only [Session.change, Session.missing_attach]; rfl

lemma isSome_ownField? {o : Object} (ho : (Entity.object o).Inside s.workspace inside) (name : String) :
    ((s.attach a).ownField? o name).isSome = (s.ownField? o name).isSome := by
  cases o with
  | node m =>
    by_cases hname : name = "parent"
    · subst hname
      simp only [Session.ownField?, Session.nodeField?, Option.isSome_some]
    · rw [Session.ownField?, Session.ownField?, h.nodeField? ho hname]
  | _ => rw [h.ownField? ho rfl]

lemma markUnlessOwn {o : Object} (ho : (Entity.object o).Inside s.workspace inside) (name : String)
    (value : Atom) : (s.attach a).markUnlessOwn o name value = (s.markUnlessOwn o name value).map (·.attach a) := by
  have hreserves : (s.attach a).reserves o name = s.reserves o name := by
    cases o with
    | node m => simp only [Session.reserves, Session.kind_attach]
    | _ => rfl
  rw [Session.markUnlessOwn, Session.markUnlessOwn, h.isSome_ownField? ho, hreserves, Session.typeName_object_attach]
  split <;> rfl

lemma assignNode {m : NodeId} (hm : inside m) (name : String) (value : Atom) :
    (s.attach a).assign (.node m) name value = ((s.assign (.node m) name value).map (·.attach a)) := by
  have hassign : ((s.attach a).store.node m).assign? name value =
      ((s.store.node m).assign? name value).map fun node =>
        { node with parent? := (s.attach a).store.parent? m } := by
    rw [h.node_eq hm, Node.assign?_withParent]
  simp only [Session.assign, hassign]
  cases hnode : (s.store.node m).assign? name value with
  | none =>
    exact h.markUnlessOwn (o := .node m) hm name value
  | some node =>
    -- the node put in place knows its parent, but the change that makes it does not look at the parent
    have hjoins := h.joins.modify (h.ne_container hm) (Node.ignoresParent_assign? name value)
    have hplain : s.store.modify m (fun node => (node.assign? name value).getD node) =
        s.store.modify m fun _ => node := Store.modify_congr (by rw [hnode]; rfl)
    have hattached : (s.attach a).store.modify m (fun node => (node.assign? name value).getD node) =
        (s.attach a).store.modify m fun _ => { node with parent? := (s.attach a).store.parent? m } :=
      Store.modify_congr (by rw [hassign, hnode]; rfl)
    rw [hplain, hattached] at hjoins
    exact congrArg Except.ok (Session.withStore_attach hjoins)

lemma assign {o : Object} (ho : (Entity.object o).Inside s.workspace inside) (name : String) (value : Atom) :
    (s.attach a).assign o name value = (s.assign o name value).map (·.attach a) := by
  cases o with
  | node m => exact h.assignNode ho name value
  | arguments ref =>
    rw [Session.assign.eq_def, Session.assign.eq_def]
    simp only [h.modifyArguments ho, h.markUnlessOwn ho]
    split <;> rfl
  | deck i =>
    rw [Session.assign.eq_def, Session.assign.eq_def]
    simp only [h.markUnlessOwn ho]
    split <;> rfl
  | settings i => rfl
  | kind k =>
    simp only [Session.assign]
    split <;> rfl

lemma set (he : e.Inside s.workspace inside) (name : String) (value : Atom) :
    (s.attach a).set e name value = (s.set e name value).map (·.attach a) := by
  cases e with
  | object o => exact h.assign he name value
  | value v =>
    cases v with
    | atom x =>
      cases x with
      | text =>
        simp only [Session.set, Session.missing_attach, Session.typeName_attach]
        split <;> rfl
      | _ => simp only [Session.set, Session.missing_attach]; rfl
    | _ => simp only [Session.set, Session.missing_attach]; rfl
  | _ => simp only [Session.set, Session.missing_attach]; rfl

lemma takeSettings {source : SettingsSource} (hkeeps : source.KeepsTo inside s) :
    (s.attach a).takeSettings source = (s.takeSettings source).map fun (t, i) => (t.attach a, i) := by
  cases source with
  | standard => rfl
  | shared name =>
    simp only [Session.takeSettings, Session.lookup_attach]
    cases he : s.lookup name with
    | error fault => rfl
    | ok e =>
      simp only [bind, Except.bind, Session.missing_attach]
      split
      · rfl
      · rw [h.isFalse (hkeeps _ he)]
        split <;> rfl
  | data datum =>
    simp only [Session.takeSettings]
    split <;> rfl

end

lemma makeDeck (h : a.Apart inside s) (outlineTitle? : Option String) {source : SettingsSource}
    (hkeeps : source.KeepsTo inside s) :
    (s.attach a).makeDeck outlineTitle? source = attachResult a (s.makeDeck outlineTitle? source) := by
  rw [Session.makeDeck, Session.makeDeck, h.takeSettings hkeeps]
  cases htake : s.takeSettings source with
  | error fault => rfl
  | ok taken =>
    obtain ⟨t, place⟩ := taken
    have hjoins : a.Joins t.store (t.attach a).store :=
      h.joins.of_size_le (by rw [Session.store_takeSettings htake]) rfl
    have hbuild := hjoins.build (t.workspace.settingsAt place) place outlineTitle?
    have hadd : (t.attach a).workspace.addDeck outlineTitle? place =
        (t.workspace.addDeck outlineTitle? place).map fun x =>
          ({ x.1 with store := a.apply x.1.store }, x.2) := by
      rw [Workspace.addDeck, Workspace.addDeck]
      change (Deck.build (t.attach a).store (t.workspace.settingsAt place) place outlineTitle? >>= _) =
        Except.map _ (Deck.build t.store (t.workspace.settingsAt place) place outlineTitle? >>= _)
      rw [hbuild]
      cases Deck.build t.store (t.workspace.settingsAt place) place outlineTitle? <;> rfl
    simp only [Except.map, bind, Except.bind, hadd]
    cases t.workspace.addDeck outlineTitle? place <;> rfl

section

variable (h : a.Apart inside s)

include h

lemma make (draft : Draft) :
    (s.attach a).withStore ((s.attach a).store.create draft).1 =
        (s.withStore (s.store.create draft).1).attach a ∧
      ((s.attach a).store.create draft).2 = (s.store.create draft).2 :=
  ⟨Session.withStore_attach (h.joins.create draft), by rw [Store.create_snd, Store.create_snd, h.joins.size]⟩

lemma makeCodeHeader (comment? : Option String) : (s.attach a).makeCodeHeader comment? =
    ((s.makeCodeHeader comment?).1.attach a, (s.makeCodeHeader comment?).2) := by
  have hne : s.store.size ≠ a.container := h.joins.ne_of_size_le (Nat.le_refl _)
  have hjoins := (h.joins.create .header).createAllIn hne [.package listingName [] comment?]
  simp only [Session.makeCodeHeader, Deck.makeCodeHeader, Store.create_snd, h.joins.size,
    Session.withStore_attach hjoins]

theorem run_action {action : Action} (hkeeps : action.KeepsTo inside s) :
    action.run (s.attach a) = (action.run s).attach a := by
  cases action with
  | make draft =>
    obtain ⟨hmade, hnode⟩ := h.make draft
    simp only [Action.run, hmade, hnode]
    rfl
  | makeDeck outlineTitle? source =>
    simp only [Action.run, h.makeDeck outlineTitle? hkeeps, Effect.ofResult_attach]
  | makeCodeHeader comment? =>
    simp only [Action.run, h.makeCodeHeader]
    rfl
  | change on c =>
    simp only [Action.run, Session.lookup_attach]
    exact Effect.ofResult_bind_attach fun e he => h.change (hkeeps e he) c
  | look on question =>
    simp only [Action.run_look, Session.lookup_attach]
    cases he : s.lookup on with
    | error fault => rfl
    | ok e =>
      simp only [h.look (hkeeps.1 e he) (hkeeps.2 e he)]
      rfl
  | assign on field value =>
    simp only [Action.run, Session.lookup_attach]
    refine Effect.ofResult_bind_attach fun e he => ?_
    rw [h.set (hkeeps e he)]
    cases s.set e field value <;> rfl
  | assignSetting on field value =>
    simp only [Action.run, Session.lookup_attach]
    refine Effect.ofResult_bind_attach fun e he => ?_
    rw [Session.assignSetting_attach]
    cases s.assignSetting e field value <;> rfl
  | pushArgument on value =>
    simp only [Action.run, Session.lookup_attach]
    refine Effect.ofResult_bind_attach fun e he => ?_
    rw [Session.argumentsOf_attach]
    cases hof : s.argumentsOf e "args" with
    | error fault => rfl
    | ok ref =>
      have hinside := Session.inside_argumentsOf (hkeeps e he) hof
      exact congrArg (fun t => Except.ok (t, Entity.nothing)) (h.modifyArguments hinside _)
  | load path file =>
    simp only [Action.run]
    split <;> rfl
  | unknown on? word =>
    cases on? <;> rfl
  | makeArguments | fail | setUpLog => rfl

lemma start {construction : Construction} (hkeeps : construction.KeepsTo inside a.node s) :
    construction.start (s.attach a) = (construction.start s).map fun (t, p) => (t.attach a, p) := by
  cases construction with
  | deck outlineTitle? source =>
    simp only [Construction.start, h.makeDeck outlineTitle? hkeeps]
    cases s.makeDeck outlineTitle? source <;> rfl
  | adopt on node place =>
    obtain ⟨-, -, hne⟩ := hkeeps
    simp only [Construction.start, Session.lookup_attach, Session.containerFor_attach, Session.missing_attach]
    cases he : s.lookup on with
    | error fault => rfl
    | ok e =>
      simp only [bind, Except.bind]
      cases s.containerFor e _ with
      | error fault => rfl
      | ok c =>
        cases hsubject : s.lookup node with
        | error fault => rfl
        | ok subject =>
          simp only
          split
          · next m =>
            have hm : m ≠ a.node := by
              rintro rfl
              exact hne hsubject
            rw [Session.checkFree_attach h.node_lt hm]
            cases s.checkFree m <;> rfl
          · rfl
  | child on builder =>
    simp only [Construction.start, Session.lookup_attach, Session.containerFor_attach, Session.kind_attach]
    cases he : s.lookup on with
    | error fault => rfl
    | ok e =>
      simp only [bind, Except.bind]
      cases s.containerFor e builder.method with
      | error fault => rfl
      | ok c =>
        obtain ⟨hmade, hnode⟩ := h.make (builder.draft (s.store.kind c))
        simp only [hmade, hnode]
        rfl
  | head on =>
    simp only [Construction.start, Session.lookup_attach, Session.containerFor_attach]
    cases s.lookup on with
    | error fault => rfl
    | ok e =>
      simp only [bind, Except.bind]
      cases s.containerFor e .head <;> rfl

lemma finish {p : Pending} (hkeeps : p.KeepsTo inside a.node) :
    p.finish (s.attach a) = (p.finish s).map (·.attach a) := by
  rw [Pending.finish, Pending.finish]
  split
  · next n c place hsubject htarget =>
    obtain ⟨hc, -, hne⟩ := hkeeps ⟨c, n, place⟩ (by rw [Pending.attachment?, hsubject, htarget])
    have hjoins := h.joins.link (h.ne_container hc) hne place
    rw [Session.checkFree_attach h.node_lt hne]
    cases s.checkFree n with
    | error fault => rfl
    | ok => exact congrArg Except.ok (Session.withStore_attach hjoins)
  · rfl

lemma begun {construction : Construction} (hkeeps : construction.KeepsTo inside a.node s) {t : Session}
    {p : Pending} (hstart : construction.start s = .ok (t, p)) (subject? : Option String) :
    a.Apart inside (t.bind subject? p.subject) := by
  refine h.of_confines (h.closed.wellFormed.start hstart subject?).1 ?_
  rw [Session.store_bind]
  exact Construction.start_confines h.closed h.node_lt hkeeps hstart

lemma enter {on : String} {m : NodeId} (hon : s.lookup on = .ok (.node m)) (subject? : Option String) :
    a.Apart inside (s.bind subject? (.node m)) := by
  refine h.of_confines (h.closed.wellFormed.bind subject? (h.closed.wellFormed.lookup hon)) ?_
  rw [Session.store_bind]
  exact .refl _ _ _

lemma run {step : Step} (hkeeps : step.KeepsTo inside a.node s) : a.Apart inside (step.run s).1 :=
  h.of_confines (h.closed.wellFormed.run step) (step.run_confines s h.closed h.node_lt hkeeps)

lemma runUntilFault {steps : List Step} (hkeeps : Step.AllKeepTo inside a.node steps s) :
    a.Apart inside (Step.runUntilFault steps s).1 :=
  h.of_confines (h.closed.wellFormed.runUntilFault steps)
    (Step.runUntilFault_confines steps s h.closed h.node_lt hkeeps)

lemma build {construction : Construction} (hkeeps : construction.KeepsTo inside a.node s) :
    construction.run (s.attach a) = (construction.run s).attach a := by
  rw [Construction.run, Construction.run, h.start hkeeps]
  cases hstart : construction.start s with
  | error fault => rfl
  | ok begun =>
    obtain ⟨t, p⟩ := begun
    have ht : a.Apart inside t := h.begun hkeeps hstart none
    simp only [Except.map]
    rw [ht.finish (Construction.pending_keepsTo h.closed h.node_lt hkeeps hstart)]
    cases p.finish t <;> rfl

end

end Attachment.Apart

section Run

variable {a : Attachment} {inside : NodeId → Prop}

-- By recursion on steps and on the steps inside them. What a step has done keeps to the region, so that the
-- steps after it find the container apart from theirs.
mutual

theorem Step.run_attach : ∀ (step : Step) (s : Session), a.Apart inside s → step.KeepsTo inside a.node s →
    step.run (s.attach a) = ((step.run s).1.attach a, (step.run s).2)
  | .act action result?, s, h, hkeeps => by
    rw [Step.run, Step.run, h.run_action hkeeps, Session.answer_attach]
  | .build construction result?, s, h, hkeeps => by
    rw [Step.run, Step.run, h.build hkeeps, Session.answer_attach]
  | .buildWith construction subject? steps result?, s, h, hkeeps => by
    rw [Step.run, Step.run, h.start hkeeps.1]
    cases hstart : construction.start s with
    | error fault => rfl
    | ok begun =>
      obtain ⟨t, p⟩ := begun
      have ht := h.begun hkeeps.1 hstart subject?
      have hran := Step.runUntilFault_attach steps _ ht (hkeeps.2 t p hstart)
      have hp := Construction.pending_keepsTo h.closed h.node_lt hkeeps.1 hstart
      simp only [Except.map, Session.bind_attach, hran]
      cases Answer.firstFault? (Step.runUntilFault steps (t.bind subject? p.subject)).2 with
      | some fault => rfl
      | none =>
        simp only [(ht.runUntilFault (hkeeps.2 t p hstart)).finish hp]
        cases p.finish (Step.runUntilFault steps (t.bind subject? p.subject)).1 with
        | error fault => rfl
        | ok u => simp only [Except.map, Session.conclude_attach]
  | .within on subject? steps, s, h, hkeeps => by
    rw [Step.run, Step.run, Session.lookup_attach]
    cases hon : s.lookup on with
    | error fault => rfl
    | ok e =>
      simp only
      split
      · next hfault => cases hfault
      · next m he =>
        cases he
        have hran := Step.runUntilFault_attach steps _ (h.enter hon subject?) (hkeeps m hon)
        simp only [Session.bind_attach, hran, Session.present_attach]
        split <;> rfl
      · rfl

theorem Step.runUntilFault_attach : ∀ (steps : List Step) (s : Session), a.Apart inside s →
    Step.AllKeepTo inside a.node steps s →
    Step.runUntilFault steps (s.attach a) =
      ((Step.runUntilFault steps s).1.attach a, (Step.runUntilFault steps s).2)
  | [], s, _, _ => by
    rw [Step.runUntilFault, Step.runUntilFault]
  | step :: rest, s, h, hkeeps => by
    have hstep := Step.run_attach step s h hkeeps.1
    rw [Step.runUntilFault, Step.runUntilFault, hstep]
    cases hfault : (step.run s).2.fault? with
    | some fault => simp only [hfault]
    | none =>
      simp only [hfault, Step.runUntilFault_attach rest _ (h.run hkeeps.1) (hkeeps.2 hfault)]

end

end Run

end Script

end SlideDeck
