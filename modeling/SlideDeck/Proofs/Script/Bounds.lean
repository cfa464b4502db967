import SlideDeck.Proofs.Script.Ownership

/-! Whatever names, marks and presentations point to has been made. -/

namespace SlideDeck

structure Workspace.Grows (v w : Workspace) : Prop where
  store : v.store.size ≤ w.store.size
  decks : v.decks.size ≤ w.decks.size
  settings : v.settings.size ≤ w.settings.size

def ArgumentsRef.Bound (w : Workspace) : ArgumentsRef → Prop
  | ofNode n => n < w.store.size
  | free _ => True

namespace Workspace.Grows

variable {u v w : Workspace}

lemma refl (w : Workspace) : w.Grows w := ⟨Nat.le_refl _, Nat.le_refl _, Nat.le_refl _⟩

lemma trans (h : u.Grows v) (h' : v.Grows w) : u.Grows w :=
  ⟨Nat.le_trans h.store h'.store, Nat.le_trans h.decks h'.decks, Nat.le_trans h.settings h'.settings⟩

end Workspace.Grows

lemma ArgumentsRef.Bound.grows {v w : Workspace} {a : ArgumentsRef} (ha : a.Bound v) (h : v.Grows w) : a.Bound w := by
  cases a with
  | ofNode n => exact Nat.lt_of_lt_of_le ha h.store
  | free i => trivial

namespace Script

def Object.Bound (w : Workspace) : Object → Prop
  | node n => n < w.store.size
  | arguments a => a.Bound w
  | deck i => i < w.decks.size
  | settings i => i < w.settings.size
  | kind _ => True

def Entity.Bound (w : Workspace) : Entity → Prop
  | object o => o.Bound w
  | nodes _ members => ∀ n ∈ members, n < w.store.size
  | part owner _ => owner.Bound w
  | value _ => True

section

variable {v w : Workspace}

lemma Object.Bound.grows {o : Object} (ho : o.Bound v) (h : v.Grows w) : o.Bound w := by
  cases o with
  | node n => exact Nat.lt_of_lt_of_le ho h.store
  | arguments a => exact ArgumentsRef.Bound.grows ho h
  | deck i => exact Nat.lt_of_lt_of_le ho h.decks
  | settings i => exact Nat.lt_of_lt_of_le ho h.settings
  | kind k => trivial

lemma Entity.Bound.grows {e : Entity} (he : e.Bound v) (h : v.Grows w) : e.Bound w := by
  cases e with
  | object o => exact Object.Bound.grows he h
  | nodes form members => exact fun n hn => Nat.lt_of_lt_of_le (he n hn) h.store
  | part owner p => exact ArgumentsRef.Bound.grows he h
  | value v => trivial

end

structure Session.Bounded (s : Session) : Prop where
  names : ∀ entry ∈ s.names, entry.2.Bound s.workspace
  marks : ∀ m ∈ s.marks, m.1.1.Bound s.workspace
  settings : ∀ d ∈ s.workspace.decks, d.settings < s.workspace.settings.size

structure Session.Extends (s t : Session) : Prop where
  grows : s.workspace.Grows t.workspace
  bounded : s.Bounded → t.Bounded

structure Effect.Extends (e : Effect) (s : Session) : Prop where
  session : s.Extends e.session
  outcome : s.Bounded → ∀ x, e.outcome = .ok x → x.Bound e.session.workspace

namespace Session

variable {s t u : Session}

lemma Extends.refl (s : Session) : s.Extends s := ⟨.refl s.workspace, id⟩

lemma extends_of_same (hnames : t.names = s.names) (hmarks : t.marks = s.marks)
    (hdecks : t.workspace.decks = s.workspace.decks) (hstore : s.store.size ≤ t.store.size)
    (hsettings : s.workspace.settings.size ≤ t.workspace.settings.size) : s.Extends t := by
  have hgrows : s.workspace.Grows t.workspace := ⟨hstore, Nat.le_of_eq (by rw [hdecks]), hsettings⟩
  refine ⟨hgrows, fun h => ⟨fun entry he => (h.names entry (hnames ▸ he)).grows hgrows,
    fun m hm => (h.marks m (hmarks ▸ hm)).grows hgrows, fun d hd => ?_⟩⟩
  exact Nat.lt_of_lt_of_le (h.settings d (hdecks ▸ hd)) hsettings

lemma extends_withStore {store : Store} (h : s.store.size ≤ store.size) : s.Extends (s.withStore store) :=
  extends_of_same rfl rfl rfl h (Nat.le_refl _)

lemma extends_modifyArguments (s : Session) (a : ArgumentsRef) (f : Arguments → Arguments) :
    s.Extends (s.modifyArguments a f) := by
  cases a with
  | ofNode n => exact extends_withStore (Nat.le_of_eq (Store.size_modify s.store n _).symm)
  | free i => exact extends_of_same rfl rfl rfl (Nat.le_refl _) (Nat.le_refl _)

lemma extends_addSettings (s : Session) (settings : Settings) :
    s.Extends { s with workspace := (s.workspace.addSettings settings).1 } :=
  extends_of_same rfl rfl rfl (Nat.le_refl _) (by simp [Workspace.addSettings])

lemma lt_size_addSettings (s : Session) (settings : Settings) :
    s.workspace.settings.size < (s.workspace.addSettings settings).1.settings.size := by
  simp [Workspace.addSettings]

lemma Bounded.lookup (h : s.Bounded) {name : String} {e : Entity} (he : s.lookup name = .ok e) :
    e.Bound s.workspace :=
  h.names _ (mem_names_of_lookup he)

lemma Bounded.marked?_eq_none (h : s.Bounded) {o : Object} (ho : ¬ o.Bound s.workspace) (name : String) :
    s.marked? o name = none := by
  rw [marked?, List.lookup_eq_none_iff]
  rintro ⟨⟨p, field⟩, a⟩ hm
  refine bne_iff_ne.mpr fun heq => ho ?_
  rw [show o = p from congrArg Prod.fst heq]
  exact h.marks _ hm

lemma extends_takeSettings {source : SettingsSource} {i : ℕ} (h : s.takeSettings source = .ok (t, i)) :
    s.Extends t ∧ (s.Bounded → i < t.workspace.settings.size) := by
  cases takes h with
  | shared hon => exact ⟨.refl s, fun hs => hs.lookup hon⟩
  | added _ settings => exact ⟨s.extends_addSettings settings, fun _ => s.lt_size_addSettings settings⟩

lemma extends_makeDeck {outlineTitle? : Option String} {source : SettingsSource} {e : Entity}
    (h : s.makeDeck outlineTitle? source = .ok (t, e)) : s.Extends t ∧ (s.Bounded → e.Bound t.workspace) := by
  obtain ⟨u, place, store, d, htake, hbuild, rfl, rfl⟩ := exists_build_of_makeDeck h
  obtain ⟨hu, hplace⟩ := extends_takeSettings htake
  have hgrows : u.workspace.Grows { u.workspace with store, decks := u.workspace.decks.push d } :=
    ⟨(Deck.build_edits hbuild).1.grows.size_le, by simp, Nat.le_refl _⟩
  refine ⟨⟨hu.grows.trans hgrows, fun hs => ?_⟩, fun hs => by simp [Entity.Bound, Object.Bound]⟩
  have hbounded := hu.bounded hs
  refine ⟨fun entry he => (hbounded.names entry he).grows hgrows, fun m hm => (hbounded.marks m hm).grows hgrows,
    fun e he => ?_⟩
  rcases Array.mem_push.mp he with he | rfl
  · exact hbounded.settings e he
  · rw [Deck.settings_of_build hbuild]
    exact hplace hs

lemma extends_setOutlineTitle (s : Session) (i : ℕ) (title : Atom) : s.Extends (s.setOutlineTitle i title) := by
  have hgrows : s.workspace.Grows (s.setOutlineTitle i title).workspace :=
    ⟨Nat.le_refl _, by simp [setOutlineTitle], Nat.le_refl _⟩
  refine ⟨hgrows, fun h => ⟨fun entry he => (h.names entry he).grows hgrows,
    fun m hm => (h.marks m hm).grows hgrows, fun d hd => ?_⟩⟩
  obtain ⟨j, hj⟩ := Array.mem_iff_getElem?.mp hd
  simp only [setOutlineTitle, Array.getElem?_modify] at hj
  split at hj
  · obtain ⟨d₀, hd₀, rfl⟩ := Option.map_eq_some_iff.mp hj
    exact h.settings d₀ (Array.mem_of_getElem? hd₀)
  · exact h.settings d (Array.mem_of_getElem? hj)

lemma extends_mark {o : Object} (ho : s.Bounded → o.Bound s.workspace) (field : String) (value : Atom) :
    s.Extends (s.mark o field value) where
  grows := .refl _
  bounded h := by
    refine ⟨h.names, fun m hm => ?_, h.settings⟩
    rcases List.mem_cons.mp hm with rfl | hm
    · exact ho h
    · exact h.marks m (List.mem_filter.mp hm).1

lemma Assigns.extends {o : Object} (ho : s.Bounded → o.Bound s.workspace) {name : String} {value : Atom}
    (h : s.Assigns o name value t) : s.Extends t := by
  cases h with
  | node h => exact extends_withStore (Nat.le_of_eq (Store.size_modify s.store _ _).symm)
  | comment a => exact s.extends_modifyArguments a _
  | outlineTitle i => exact s.extends_setOutlineTitle i value
  | mark o => exact extends_mark ho name value

lemma extends_set {e : Entity} (he : s.Bounded → e.Bound s.workspace) {name : String} {value : Atom}
    (h : s.set e name value = .ok t) : s.Extends t := by
  obtain ⟨o, rfl, hassigns⟩ := exists_assigns h
  exact hassigns.extends he

lemma extends_assignSetting {e : Entity} {field : String} {value : Datum}
    (h : s.assignSetting e field value = .ok t) : s.Extends t := by
  obtain ⟨i, d, settings, -, -, -, rfl⟩ := exists_of_assignSetting h
  exact extends_of_same rfl rfl rfl (Nat.le_refl _) (by simp)

lemma extends_changeArguments {e x : Entity} (he : s.Bounded → e.Bound s.workspace) {method : Method}
    {f : Arguments → Arguments} (h : s.changeArguments e method f = .ok (t, x)) :
    s.Extends t ∧ (s.Bounded → x.Bound t.workspace) := by
  obtain ⟨a, -, h⟩ := bind_eq_ok_iff.mp h
  cases h
  have ht := s.extends_modifyArguments a f
  refine ⟨ht, fun hs => ?_⟩
  split
  · trivial
  · exact (he hs).grows ht.grows

lemma extends_change (hw : s.WellFormed) {e x : Entity} (hwithin : e.Within s.store)
    (he : s.Bounded → e.Bound s.workspace) {c : Change} (h : s.change e c = .ok (t, x)) :
    s.Extends t ∧ (s.Bounded → x.Bound t.workspace) := by
  have hstore := (follows_change hw hwithin h).1.edits.grows.size_le
  cases changes h with
  | headings | setTitle => exact ⟨extends_withStore hstore, fun _ => trivial⟩
  | addOption h => exact extends_changeArguments he h
  | setComment h => exact extends_changeArguments he h
  | addSlideQualifier | addSource =>
    have ht := extends_withStore hstore
    exact ⟨ht, fun hs => (he hs).grows ht.grows⟩

lemma bound_of_children (hw : s.WellFormed) (n : NodeId) : ∀ c ∈ s.store.children n, c < s.store.size :=
  fun c hc => Store.lt_size_of_parent? s.store c ((hw.store.mem_children_iff n c).mp hc)

lemma Sees.bound {e x : Entity} (h : s.Sees e x) (hw : s.WellFormed) (hs : s.Bounded) (he : e.Bound s.workspace) :
    x.Bound s.workspace := by
  have hwithin := h.within hw
  cases h with
  | value | kind => trivial
  | parent | listing | tree => exact hwithin
  | children n => exact bound_of_children hw n
  | members | arguments | partOfNode | part => exact he
  | @settings i d hd => exact hs.settings d (Array.mem_of_getElem? hd)

@[simp] lemma workspace_bind (s : Session) (name? : Option String) (e : Entity) :
    (s.bind name? e).workspace = s.workspace := by
  cases name? <;> rfl

@[simp] lemma workspace_conclude (s : Session) (result? : Option String) (e : Entity) :
    (s.conclude result? e).1.workspace = s.workspace := s.workspace_bind result? _

@[simp] lemma workspace_answer (s : Session) (result? : Option String) (effect : Effect) :
    (s.answer result? effect).1.workspace = effect.session.workspace := by
  rw [Session.answer]
  cases effect.outcome with
  | error fault => rfl
  | ok e => exact workspace_conclude _ _ _

lemma Bounded.bind (hs : s.Bounded) {e : Entity} (he : e.Bound s.workspace) (name? : Option String) :
    (s.bind name? e).Bounded := by
  cases name? with
  | none => exact hs
  | some name =>
    refine ⟨fun entry hentry => ?_, hs.marks, hs.settings⟩
    rcases mem_bindName hentry with rfl | hentry
    · exact he
    · exact hs.names entry hentry

lemma Bounded.conclude (hs : s.Bounded) {e : Entity} (he : e.Bound s.workspace) (result? : Option String) :
    (s.conclude result? e).1.Bounded := by
  refine hs.bind ?_ result?
  cases e with
  | value v => cases v <;> trivial
  | _ => exact he

lemma Bounded.answer (hs : s.Bounded) {effect : Effect} (h : effect.Extends s) (result? : Option String) :
    (s.answer result? effect).1.Bounded := by
  rw [Session.answer]
  cases houtcome : effect.outcome with
  | error fault => exact h.session.bounded hs
  | ok e => exact (h.session.bounded hs).conclude (h.outcome hs e houtcome) result?

lemma bounded_empty : ({} : Session).Bounded := ⟨by simp, by simp, by simp⟩

end Session

lemma Action.EndsIn.extends {s t : Session} (hw : s.WellFormed) {action : Action} {x : Entity}
    (h : action.EndsIn s t x) : s.Extends t ∧ (s.Bounded → x.Bound t.workspace) := by
  obtain ⟨hfollows, hwithin⟩ := h.follows hw
  have hstore := hfollows.edits.grows.size_le
  cases h with
  | make draft => exact ⟨Session.extends_withStore hstore, fun _ => hwithin⟩
  | makeArguments a => exact ⟨Session.extends_of_same rfl rfl rfl (Nat.le_refl _) (Nat.le_refl _), fun _ => trivial⟩
  | makeDeck h => exact Session.extends_makeDeck h
  | makeCodeHeader comment? => exact ⟨Session.extends_withStore hstore, fun _ => hwithin⟩
  | change hon h => exact Session.extends_change hw (hw.lookup hon) (fun hs => hs.lookup hon) h
  | look hon h => exact ⟨.refl s, fun hs => (Session.sees_of_look h).bound hw hs (hs.lookup hon)⟩
  | assign hon h => exact ⟨Session.extends_set (fun hs => hs.lookup hon) h, fun _ => trivial⟩
  | assignSetting hon h => exact ⟨Session.extends_assignSetting h, fun _ => trivial⟩
  | pushArgument hon ha => exact ⟨s.extends_modifyArguments _ _, fun _ => trivial⟩
  | @load _ _ settings => exact ⟨s.extends_addSettings settings, fun _ => s.lt_size_addSettings settings⟩
  | setUpLog => exact ⟨Session.extends_of_same rfl rfl rfl (Nat.le_refl _) (Nat.le_refl _), fun _ => trivial⟩

lemma Action.run_extends {s : Session} (hw : s.WellFormed) (action : Action) : (action.run s).Extends s := by
  cases h : (action.run s).outcome with
  | error fault =>
    refine ⟨?_, fun _ x hx => ?_⟩
    · rw [session_run_of_error h]
      exact .refl s
    · rw [h] at hx
      cases hx
  | ok x =>
    obtain ⟨hextends, hbound⟩ := (endsIn rfl h).extends hw
    refine ⟨hextends, fun hs y hy => ?_⟩
    rw [h] at hy
    cases hy
    exact hbound hs

lemma Construction.start_extends {s t : Session} (hw : s.WellFormed) {construction : Construction} {p : Pending}
    (h : construction.start s = .ok (t, p)) : s.Extends t ∧ (s.Bounded → p.subject.Bound t.workspace) := by
  have hstore := (Construction.start_follows hw h).1.edits.grows.size_le
  cases Construction.begins h with
  | deck hmake => exact Session.extends_makeDeck hmake
  | adopt hon hc hnode => exact ⟨.refl s, fun hs => hs.lookup hnode⟩
  | child hon hc => exact ⟨Session.extends_withStore hstore, fun _ => Store.size_lt_size_create _ _⟩
  | head hon hc =>
    have hcontainer := hw.containerFor (hw.lookup hon) (by simp [Method.isOf]) hc
    exact ⟨.refl s, fun _ => hcontainer.lt_size⟩

lemma Pending.finish_extends {s t : Session} {p : Pending} (h : p.finish s = .ok t) : s.Extends t := by
  have hfinish := Pending.finish_eq h
  split at hfinish
  · rw [hfinish]
    exact .refl s
  · next a _ =>
    rw [hfinish.2]
    exact Session.extends_withStore (Nat.le_of_eq (Store.size_link s.store a.node a.container a.place).symm)

structure Point.Bounded (p : Point) : Prop where
  session : p.session.Bounded
  pending : ∀ x ∈ p.pending, x.subject.Bound p.session.workspace

lemma Move.bounded {p q : Point} {a? : Option Attachment} (hw : p.session.WellFormed) (hp : p.Bounded)
    (h : Move p a? q) : q.Bounded := by
  have hs := hp.session
  cases h with
  | act s pending action result? =>
    have hrun := action.run_extends hw
    refine ⟨hs.answer hrun result?, fun x hx => ?_⟩
    rw [Session.workspace_answer]
    exact (hp.pending x hx).grows hrun.session.grows
  | start pending construction subject? hstart =>
    obtain ⟨hextends, hsubject⟩ := Construction.start_extends hw hstart
    refine ⟨(hextends.bounded hs).bind (hsubject hs) subject?, fun x hx => ?_⟩
    rw [Session.workspace_bind]
    rcases List.mem_cons.mp hx with rfl | hx
    · exact hsubject hs
    · exact (hp.pending x hx).grows hextends.grows
  | enter pending subject? hon =>
    refine ⟨hs.bind (hs.lookup hon) subject?, fun x hx => ?_⟩
    rw [Session.workspace_bind]
    exact hp.pending x hx
  | abandon s x pending => exact ⟨hs, fun y hy => hp.pending y (List.mem_cons_of_mem _ hy)⟩
  | @complete s t x pending result? hfinish =>
    have hextends := Pending.finish_extends hfinish
    refine ⟨(hextends.bounded hs).conclude ((hp.pending x List.mem_cons_self).grows hextends.grows) result?,
      fun y hy => ?_⟩
    rw [Session.workspace_conclude]
    exact (hp.pending y (List.mem_cons_of_mem _ hy)).grows hextends.grows

lemma Moves.bounded {p q : Point} (hw : p.WellFormed) (hp : p.Bounded) (h : Moves p q) : q.Bounded := by
  induction h with
  | refl => exact hp
  | tail hmoves hmove ih =>
    obtain ⟨a?, hmove⟩ := hmove
    exact hmove.bounded (Moves.wellFormed hw hmoves).session ih

theorem Session.Reachable.bounded {s : Session} (h : s.Reachable) : s.Bounded := by
  obtain ⟨pending, hmoves⟩ := h
  exact (Moves.bounded ⟨Session.wellFormed_empty, by simp⟩ ⟨Session.bounded_empty, by simp⟩ hmoves).session

end Script

end SlideDeck
