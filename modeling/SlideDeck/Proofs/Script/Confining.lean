import SlideDeck.Proofs.Script.Attaching
import SlideDeck.Proofs.Script.History
import SlideDeck.Proofs.Script.Locality

/-! Steps that keep to a region of nodes: they change nothing outside it. -/

namespace SlideDeck

namespace Store

/-- Nothing outside a region has changed, and one node has the parent it had. -/
structure Confines (s t : Store) (inside : NodeId → Prop) (n : NodeId) : Prop where
  size_le : s.size ≤ t.size
  node (m : NodeId) : m < s.size → ¬ inside m → t.node m = s.node m
  parent? : t.parent? n = s.parent? n

variable {s t u : Store} {inside : NodeId → Prop} {c m n : NodeId}

lemma Confines.refl (s : Store) (inside : NodeId → Prop) (n : NodeId) : s.Confines s inside n :=
  ⟨Nat.le_refl _, fun _ _ _ => rfl, rfl⟩

lemma Confines.trans (h : s.Confines t inside n) (h' : t.Confines u inside n) : s.Confines u inside n where
  size_le := h.size_le.trans h'.size_le
  node m hlt hm := (h'.node m (hlt.trans_le h.size_le) hm).trans (h.node m hlt hm)
  parent? := h'.parent?.trans h.parent?

lemma Confines.link (h : s.Confines t inside n) (hc : inside c) (hm : inside m) (hne : m ≠ n) (place : Place) :
    s.Confines (t.link c m place) inside n := by
  have hother {k : NodeId} (hk : ¬ inside k) : (t.link c m place).node k = t.node k := by
    have hc : ¬ (c = k ∧ k < t.size) := fun heq => hk (heq.1 ▸ hc)
    have hm : ¬ (m = k ∧ k < t.size) := fun heq => hk (heq.1 ▸ hm)
    rw [node_link, if_neg hc, if_neg hm]
    rfl
  refine ⟨h.size_le.trans (size_link t m c place).ge, fun k hlt hk => (hother hk).trans (h.node k hlt hk), ?_⟩
  rw [← h.parent?, Store.parent?, node_link]
  exact if_neg fun heq => hne heq.1

lemma Edits.parent?_eq (h : s.Edits t) (hlt : n < s.size) : t.parent? n = s.parent? n := by
  induction h with
  | refl => rfl
  | @tail t u hedits hedit ih =>
    have hlt' : n < t.size := hlt.trans_le (Edits.grows hedits).size_le
    rw [← ih]
    cases hedit with
    | alter h => exact h.parent? n
    | create draft => rw [parent?, node_create_of_lt _ _ hlt', parent?]
    | plant draft place hc =>
      rw [createIn_fst, parent?_link _ _ _ (size_lt_size_create t draft), if_neg (Nat.ne_of_lt hlt'), parent?,
        node_create_of_lt _ _ hlt', parent?]

lemma Confines.of_spares {touched : List NodeId} (h : s.Spares t touched) (hedits : s.Edits t)
    (htouched : ∀ m ∈ touched, inside m) (hn : n < s.size) : s.Confines t inside n where
  size_le := h.size_le
  node m hlt hm := by
    rw [Node.eq_of_detached (h.node m hlt fun hmem => hm (htouched m hmem))]
    change { s.node m with parent? := t.parent? m } = s.node m
    rw [hedits.parent?_eq hlt]
    rfl
  parent? := hedits.parent?_eq hn

end Store

namespace Script

def Entity.Inside (w : Workspace) (inside : NodeId → Prop) : Entity → Prop
  | .object (.node m) | .object (.arguments (.ofNode m)) | .part (.ofNode m) _ => inside m
  | .nodes _ members => ∀ m ∈ members, inside m
  | .object (.deck i) => ∀ d, w.deck? i = some d → inside d.document ∧ inside d.preamble ∧ inside d.header
  | _ => True

def Session.NamesInside (s : Session) (inside : NodeId → Prop) (name : String) : Prop :=
  ∀ e, s.lookup name = .ok e → e.Inside s.workspace inside

lemma Session.NamesInside.of_eq {s : Session} {inside : NodeId → Prop} {name : String} {e : Entity}
    (h : s.lookup name = .ok e) (he : e.Inside s.workspace inside) : s.NamesInside inside name := by
  intro x hx
  rw [h] at hx
  cases hx
  exact he

def Look.readsParent : Entity → Look → Bool
  | .object (.node _), .field name => name == "parent"
  | .object (.node _), .dump => true
  | _, _ => false

lemma Look.readsParent_slides (e : Entity) : (Look.field "slides").readsParent e = false := by
  rw [readsParent.eq_def]
  split
  · next h =>
    cases h
    decide
  · next h => cases h
  · rfl

def SettingsSource.KeepsTo (inside : NodeId → Prop) (s : Session) : SettingsSource → Prop
  | .shared name => s.NamesInside inside name
  | .standard | .data _ => True

def Action.KeepsTo (inside : NodeId → Prop) (s : Session) : Action → Prop
  | .change on _ | .assign on _ _ | .assignSetting on _ _ | .pushArgument on _ => s.NamesInside inside on
  | .look on question => s.NamesInside inside on ∧ ∀ e, s.lookup on = .ok e → question.readsParent e = false
  | .makeDeck _ source => source.KeepsTo inside s
  | .make _ | .makeArguments _ | .makeCodeHeader _ | .fail _ | .load _ _ | .setUpLog _ _ | .unknown _ _ => True

def Construction.KeepsTo (inside : NodeId → Prop) (n : NodeId) (s : Session) : Construction → Prop
  | .deck _ source => source.KeepsTo inside s
  | .adopt on node _ => s.NamesInside inside on ∧ s.NamesInside inside node ∧ s.lookup node ≠ .ok (.node n)
  | .child on _ | .head on => s.NamesInside inside on

mutual

/-- All that a step does when it is run in a session keeps to a region, and none of it attaches the node `n`. -/
def Step.KeepsTo (inside : NodeId → Prop) (n : NodeId) : Step → Session → Prop
  | .act action _, s => action.KeepsTo inside s
  | .build construction _, s => construction.KeepsTo inside n s
  | .buildWith construction subject? steps _, s =>
    construction.KeepsTo inside n s ∧ ∀ t p, construction.start s = .ok (t, p) →
      Step.AllKeepTo inside n steps (t.bind subject? p.subject)
  | .within on subject? steps, s =>
    ∀ m, s.lookup on = .ok (.node m) → Step.AllKeepTo inside n steps (s.bind subject? (.node m))

/-- The same of steps that are run up to the first one that fails. -/
def Step.AllKeepTo (inside : NodeId → Prop) (n : NodeId) : List Step → Session → Prop
  | [], _ => True
  | step :: rest, s =>
    step.KeepsTo inside n s ∧ ((step.run s).2.fault? = none → Step.AllKeepTo inside n rest (step.run s).1)

end

/-- A region that holds what is below its nodes, and all nodes that are still to be made. -/
structure Session.Closed (s : Session) (inside : NodeId → Prop) : Prop where
  wellFormed : s.WellFormed
  below (m p : NodeId) : s.store.parent? m = some p → inside p → inside m
  fresh (m : NodeId) : s.store.size ≤ m → inside m

section

variable {s t : Session} {inside : NodeId → Prop} {e : Entity} {on : String} {c m n : NodeId}

lemma Session.Closed.of_confines (h : s.Closed inside) (ht : t.WellFormed)
    (hconfines : s.store.Confines t.store inside n) : t.Closed inside where
  wellFormed := ht
  below m p hp hinside := by
    by_contra hm
    -- a node outside the region is an old one, and has the parent it had
    have hlt : m < s.store.size := Nat.lt_of_not_le fun hle => hm (h.fresh m hle)
    rw [Store.parent?, hconfines.node m hlt hm] at hp
    exact hm (h.below m p hp hinside)
  fresh m hle := h.fresh m (hconfines.size_le.trans hle)

lemma Session.inside_of_containerFor (he : e.Inside s.workspace inside) {method : Method}
    (h : s.containerFor e method = .ok c) : inside c := by
  rw [containerFor.eq_def] at h
  split at h
  · split at h
    · cases h
      exact he
    · exact (noMethod_ne_ok _ _ _ _ h).elim
  · split at h
    · next d hd =>
      obtain ⟨hdocument, -, hheader⟩ := he d hd
      split at h
      case h_4 =>
        split at h
        · cases h
          exact hdocument
        · exact (noMethod_ne_ok _ _ _ _ h).elim
      all_goals
        cases h
        exact hheader
    · exact (noMethod_ne_ok _ _ _ _ h).elim
  · exact (noMethod_ne_ok _ _ _ _ h).elim

lemma Session.inside_of_containerOf (hon : s.NamesInside inside on) {method : Method}
    (hc : c ∈ s.containerOf on method) : inside c := by
  rw [containerOf] at hc
  split at hc
  · next e he =>
    cases hfor : s.containerFor e method with
    | error fault => simp [hfor, Except.toOption] at hc
    | ok d =>
      obtain rfl : c = d := by simpa [hfor, Except.toOption] using hc
      exact inside_of_containerFor (hon e he) hfor
  · simp at hc

lemma Session.inside_of_ownNodeOf (hon : s.NamesInside inside on) (hm : m ∈ s.ownNodeOf on) : inside m := by
  rw [ownNodeOf] at hm
  split at hm
  · next e he =>
    have he := hon e he
    rw [Entity.ownNode.eq_def] at hm
    split at hm
    · obtain rfl := List.mem_singleton.mp hm
      exact he
    · obtain rfl := List.mem_singleton.mp hm
      exact he
    · cases hm
  · cases hm

lemma Session.inside_of_titledTrees (hon : s.NamesInside inside on) (hm : m ∈ s.titledTrees on) : inside m := by
  rw [titledTrees] at hm
  split at hm
  · next i hi =>
    cases hd : s.workspace.deck? i with
    | none => simp [hd] at hm
    | some d =>
      obtain ⟨hdocument, -, hheader⟩ := hon _ hi d hd
      simp only [hd, Option.map_some, Option.getD_some, List.mem_cons, List.not_mem_nil, or_false] at hm
      rcases hm with rfl | rfl
      · exact hheader
      · exact hdocument
  · cases hm

lemma Session.Closed.inside_of_listingOf (h : s.Closed inside) (hon : s.NamesInside inside on)
    (hm : m ∈ s.listingOf on) : inside m := by
  rw [listingOf] at hm
  split at hm
  · next k hk =>
    have hlisting := Option.mem_toList.mp hm
    exact h.below m k (h.wellFormed.store.listing k m hlisting).1 (hon _ hk)
  · cases hm

lemma Action.inside_of_targets (h : s.Closed inside) {action : Action} (hkeeps : action.KeepsTo inside s)
    (hm : m ∈ action.targets s) : inside m := by
  cases action with
  | change on c =>
    cases c with
    | headings => exact Session.inside_of_containerOf hkeeps hm
    | setTitle => exact Session.inside_of_titledTrees hkeeps hm
    | addSource => exact h.inside_of_listingOf hkeeps hm
    | _ => exact Session.inside_of_ownNodeOf hkeeps hm
  | assign | pushArgument => exact Session.inside_of_ownNodeOf hkeeps hm
  | _ => cases hm

lemma Construction.inside_of_targets {construction : Construction} (hkeeps : construction.KeepsTo inside n s)
    (hm : m ∈ construction.targets s) : inside m := by
  cases construction with
  | adopt => exact Session.inside_of_containerOf hkeeps.1 hm
  | child => exact Session.inside_of_containerOf hkeeps hm
  | _ => cases hm

lemma Action.run_confines (h : s.Closed inside) (hn : n < s.store.size) {action : Action}
    (hkeeps : action.KeepsTo inside s) : s.store.Confines (action.run s).session.store inside n :=
  .of_spares (action.run_spares s) (action.run_follows h.wellFormed).session.edits
    (fun _ => inside_of_targets h hkeeps) hn

lemma Construction.start_confines (h : s.Closed inside) (hn : n < s.store.size) {construction : Construction}
    (hkeeps : construction.KeepsTo inside n s) {p : Pending} (hstart : construction.start s = .ok (t, p)) :
    s.store.Confines t.store inside n :=
  .of_spares (start_spares hstart).1 (start_follows h.wellFormed hstart).1.edits
    (fun _ => inside_of_targets hkeeps) hn

def Pending.KeepsTo (inside : NodeId → Prop) (n : NodeId) (p : Pending) : Prop :=
  ∀ a, p.attachment? = some a → inside a.container ∧ inside a.node ∧ a.node ≠ n

lemma Construction.pending_keepsTo (h : s.Closed inside) (hn : n < s.store.size) {construction : Construction}
    (hkeeps : construction.KeepsTo inside n s) {p : Pending} (hstart : construction.start s = .ok (t, p)) :
    p.KeepsTo inside n := by
  intro a ha
  cases begins hstart with
  | deck hmake => simp [Pending.attachment?] at ha
  | @adopt on node place e c m hon hc hnode =>
    obtain ⟨hkept, hinside, hne⟩ := hkeeps
    cases ha
    refine ⟨Session.inside_of_containerFor (hkept e hon) hc, hinside _ hnode, ?_⟩
    rintro rfl
    exact hne hnode
  | @child on builder e c hon hc =>
    cases ha
    exact ⟨Session.inside_of_containerFor (hkeeps e hon) hc, h.fresh _ (Nat.le_refl _), Nat.ne_of_gt hn⟩
  | head hon hc => simp [Pending.attachment?] at ha

lemma Pending.finish_confines {p : Pending} (hkeeps : p.KeepsTo inside n) (hfinish : p.finish s = .ok t) :
    s.store.Confines t.store inside n := by
  have heq := Pending.finish_eq hfinish
  split at heq
  · exact heq ▸ .refl _ _ _
  · next a ha =>
    obtain ⟨hcontainer, hnode, hne⟩ := hkeeps a ha
    rw [heq.2]
    exact (Store.Confines.refl _ _ _).link hcontainer hnode hne a.place

end

section Run

variable {inside : NodeId → Prop} {n : NodeId}

-- By recursion on steps and on the steps inside them; each step leaves the region closed for the next one.
mutual

theorem Step.run_confines : ∀ (step : Step) (s : Session), s.Closed inside → n < s.store.size →
    step.KeepsTo inside n s → s.store.Confines (step.run s).1.store inside n
  | .act action result?, s, h, hn, hkeeps => by
    rw [Step.run, Session.store_answer]
    exact Action.run_confines h hn hkeeps
  | .build construction result?, s, h, hn, hkeeps => by
    rw [Step.run, Session.store_answer, Construction.run]
    cases hstart : construction.start s with
    | error fault => exact .refl _ _ _
    | ok begun =>
      obtain ⟨t, p⟩ := begun
      have ht := Construction.start_confines h hn hkeeps hstart
      simp only
      cases hfinish : p.finish t with
      | error fault => exact ht
      | ok u => exact ht.trans (Pending.finish_confines (Construction.pending_keepsTo h hn hkeeps hstart) hfinish)
  | .buildWith construction subject? steps result?, s, h, hn, hkeeps => by
    cases hstart : construction.start s with
    | error fault =>
      rw [buildWith_run_of_error subject? result? steps hstart]
      exact .refl _ _ _
    | ok begun =>
      obtain ⟨t, p⟩ := begun
      have ht := Construction.start_confines h hn hkeeps.1 hstart
      rw [← Session.store_bind t subject? p.subject] at ht
      have hbegun := h.of_confines (h.wellFormed.start hstart subject?).1 ht
      have hran := ht.trans (Step.runUntilFault_confines steps _ hbegun (hn.trans_le ht.size_le)
        (hkeeps.2 t p hstart))
      rcases Step.buildWith_cases hstart subject? result? steps with ⟨fault, hr, -⟩ | ⟨u, hfinish, hr, -⟩
      · rw [hr]
        exact hran
      · rw [hr, Session.store_conclude]
        exact hran.trans (Pending.finish_confines (Construction.pending_keepsTo h hn hkeeps.1 hstart) hfinish)
  | .within on subject? steps, s, h, hn, hkeeps => by
    rw [Step.run]
    split
    · exact .refl _ _ _
    · next m hon =>
      have hbegun : (s.bind subject? (.node m)).Closed inside :=
        h.of_confines (h.wellFormed.bind subject? (h.wellFormed.lookup hon))
          (by rw [Session.store_bind]; exact .refl _ _ n)
      have hran := Step.runUntilFault_confines steps _ hbegun (by rwa [Session.store_bind]) (hkeeps m hon)
      rw [Session.store_bind] at hran
      simp only
      split <;> exact hran
    · exact .refl _ _ _

theorem Step.runUntilFault_confines : ∀ (steps : List Step) (s : Session), s.Closed inside → n < s.store.size →
    Step.AllKeepTo inside n steps s → s.store.Confines (Step.runUntilFault steps s).1.store inside n
  | [], s, _, _, _ => by
    rw [Step.runUntilFault]
    exact .refl _ _ _
  | step :: rest, s, h, hn, hkeeps => by
    have hstep := Step.run_confines step s h hn hkeeps.1
    cases hfault : (step.run s).2.fault? with
    | some fault =>
      rw [Step.runUntilFault_cons_of_fault rest hfault]
      exact hstep
    | none =>
      rw [Step.runUntilFault_cons_of_sound rest hfault]
      exact hstep.trans (Step.runUntilFault_confines rest _ (h.of_confines (h.wellFormed.run step) hstep)
        (hn.trans_le hstep.size_le) (hkeeps.2 hfault))

end

end Run

end Script

end SlideDeck
