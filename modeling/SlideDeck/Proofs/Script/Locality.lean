import SlideDeck.Proofs.Script.Construction
import SlideDeck.Proofs.Script.Sparing

/-! Changes stay local: what is written of a node, and what is found below it, is changed by a step only if the
step targets the node, one below it, or the arguments of one of these. -/

namespace SlideDeck.Script

def Entity.ownNode : Entity → List NodeId
  | .object (.node n) | .object (.arguments (.ofNode n)) => [n]
  | _ => []

namespace Session

def containerOf (s : Session) (on : String) (method : Method) : List NodeId :=
  match s.lookup on with
  | .ok e => (s.containerFor e method).toOption.toList
  | .error _ => []

def ownNodeOf (s : Session) (on : String) : List NodeId :=
  match s.lookup on with
  | .ok e => e.ownNode
  | .error _ => []

def titledTrees (s : Session) (on : String) : List NodeId :=
  match s.lookup on with
  | .ok (.object (.deck i)) => ((s.workspace.deck? i).map fun d => [d.header, d.document]).getD []
  | _ => []

def listingOf (s : Session) (on : String) : List NodeId :=
  match s.lookup on with
  | .ok (.object (.node n)) => (s.store.node n).content.listing?.toList
  | _ => []

end Session

/-- The nodes that an action adds to, or whose attributes or arguments it changes. -/
def Action.targets (s : Session) : Action → List NodeId
  | .change on (.headings _ _) => s.containerOf on .headings
  | .change on (.setTitle _ _ _ _) => s.titledTrees on
  | .change on (.addSource _) => s.listingOf on
  | .change on (.addOption _) | .change on (.setComment _) | .change on (.addSlideQualifier _)
  | .assign on _ _ | .pushArgument on _ => s.ownNodeOf on
  | .make _ | .makeArguments _ | .makeDeck _ _ | .makeCodeHeader _ | .look _ _ | .assignSetting _ _ _ | .fail _
  | .load _ _ | .setUpLog _ _ | .unknown _ _ => []

def Construction.targets (s : Session) : Construction → List NodeId
  | .adopt on _ place => s.containerOf on (.ofPlace place)
  | .child on builder => s.containerOf on builder.method
  | .deck _ _ | .head _ => []

def Step.targets? (s : Session) : Step → Option (List NodeId)
  | .act action _ => some (action.targets s)
  | .build construction _ => some (construction.targets s)
  | .buildWith _ _ _ _ | .within _ _ _ => none

section Sparing

variable {s t : Session} {e : Entity} {on : String} {touched : List NodeId}

lemma Session.ownNodeOf_eq (h : s.lookup on = .ok e) : s.ownNodeOf on = e.ownNode := by
  rw [ownNodeOf, h]

lemma Session.containerOf_eq {c : NodeId} {method : Method} (h : s.lookup on = .ok e)
    (hc : s.containerFor e method = .ok c) : s.containerOf on method = [c] := by
  simp only [containerOf, h, hc, Except.toOption, Option.toList_some]

lemma Session.spares_modifyArguments (s : Session) (a : ArgumentsRef) (f : Arguments → Arguments) :
    s.store.Spares (s.modifyArguments a f).store (Entity.object (.arguments a)).ownNode := by
  cases a with
  | ofNode n => exact (Store.Spares.refl s.store [n]).modify (.inl (by simp)) _
  | free i => exact .refl _ _

lemma Session.ownNode_of_argumentsOf {field : String} {a : ArgumentsRef} (h : s.argumentsOf e field = .ok a) :
    (Entity.object (.arguments a)).ownNode = e.ownNode := by
  rw [argumentsOf.eq_def] at h
  split at h
  · cases h
    rfl
  · split at h
    · cases h
      rfl
    · exact (missing_ne_ok _ _ _ _ h).elim
  · exact (missing_ne_ok _ _ _ _ h).elim

lemma Session.spares_changeArguments {method : Method} {f : Arguments → Arguments} {x : Entity}
    (h : s.changeArguments e method f = .ok (t, x)) : s.store.Spares t.store e.ownNode := by
  obtain ⟨a, ha, h⟩ := bind_eq_ok_iff.mp h
  cases h
  rw [← ownNode_of_argumentsOf ha]
  exact s.spares_modifyArguments a f

lemma Session.spares_change {c : Change} {x : Entity} (hon : s.lookup on = .ok e)
    (h : s.change e c = .ok (t, x)) : s.store.Spares t.store ((Action.change on c).targets s) := by
  cases changes h with
  | headings hc =>
    rw [Action.targets, containerOf_eq hon hc]
    exact (Store.Spares.refl _ _).createAllIn (.inl (List.mem_singleton.mpr rfl)) _
  | @setTitle i d title author date? subtitle? hd =>
    simp only [Action.targets, titledTrees, hon, hd]
    exact d.spares_setTitle _ _ _ _ _
  | addOption h | setComment h =>
    rw [Action.targets, ownNodeOf_eq hon]
    exact spares_changeArguments h
  | addSlideQualifier =>
    rw [Action.targets, ownNodeOf_eq hon]
    exact (Store.Spares.refl _ _).modify (.inl (List.mem_singleton.mpr rfl)) _
  | addSource hcode =>
    simp only [Action.targets, listingOf, hon, hcode]
    exact (Store.Spares.refl _ _).createAllIn (.inl (List.mem_singleton.mpr rfl)) _

lemma Session.Assigns.spares {o : Object} {name : String} {value : Atom} (h : s.Assigns o name value t) :
    s.store.Spares t.store (Entity.object o).ownNode := by
  cases h with
  | node h => exact (Store.Spares.refl _ _).modify (.inl (List.mem_singleton.mpr rfl)) _
  | comment a => exact s.spares_modifyArguments a _
  | outlineTitle | mark => exact .refl _ _

lemma Session.spares_set {name : String} {value : Atom} (h : s.set e name value = .ok t) :
    s.store.Spares t.store e.ownNode := by
  obtain ⟨o, rfl, hassigns⟩ := exists_assigns h
  exact hassigns.spares

lemma Session.store_assignSetting {field : String} {value : Datum} (h : s.assignSetting e field value = .ok t) :
    t.store = s.store := by
  obtain ⟨i, d, settings, -, -, -, rfl⟩ := exists_of_assignSetting h
  rfl

lemma Session.store_takeSettings {source : SettingsSource} {i : ℕ} (h : s.takeSettings source = .ok (t, i)) :
    t.store = s.store := by
  cases takes h <;> rfl

lemma Session.spares_makeDeck {outlineTitle? : Option String} {source : SettingsSource} {x : Entity}
    (h : s.makeDeck outlineTitle? source = .ok (t, x)) : s.store.Spares t.store [] := by
  obtain ⟨u, place, store, d, htake, hbuild, rfl, -⟩ := exists_build_of_makeDeck h
  rw [← store_takeSettings htake]
  exact Deck.spares_build hbuild []

lemma Action.run_spares (s : Session) (action : Action) :
    s.store.Spares (action.run s).session.store (action.targets s) := by
  have hleads := action.leads s
  generalize (action.run s).session = t at hleads ⊢
  cases hleads with
  | stay | makeArguments | load | setUpLog => exact .refl _ _
  | make draft => exact (Store.Spares.refl _ _).create draft
  | makeDeck h => exact Session.spares_makeDeck h
  | makeCodeHeader comment? =>
    have hnew : s.store.MayTouch [] (s.store.create .header).2 := .inr (Store.create_snd s.store .header).ge
    exact ((Store.Spares.refl _ _).create .header).createAllIn hnew _
  | change hon h => exact Session.spares_change hon h
  | assign hon h =>
    rw [targets, Session.ownNodeOf_eq hon]
    exact Session.spares_set h
  | assignSetting hon h =>
    rw [Session.store_assignSetting h]
    exact .refl _ _
  | pushArgument hon ha =>
    rw [targets, Session.ownNodeOf_eq hon, ← Session.ownNode_of_argumentsOf ha]
    exact s.spares_modifyArguments _ _

lemma Construction.start_spares {construction : Construction} {p : Pending}
    (h : construction.start s = .ok (t, p)) : s.store.Spares t.store (construction.targets s) ∧
      ∀ c place, p.target? = some (c, place) → c ∈ construction.targets s := by
  cases begins h with
  | deck hmake => exact ⟨Session.spares_makeDeck hmake, nofun⟩
  | adopt hon hc hnode =>
    rw [targets, Session.containerOf_eq hon hc]
    exact ⟨.refl _ _, by rintro _ _ ⟨⟩; exact List.mem_singleton.mpr rfl⟩
  | child hon hc =>
    rw [targets, Session.containerOf_eq hon hc]
    exact ⟨(Store.Spares.refl _ _).create _, by rintro _ _ ⟨⟩; exact List.mem_singleton.mpr rfl⟩
  | head hon hc => exact ⟨.refl _ _, nofun⟩

lemma Construction.run_spares (s : Session) (construction : Construction) :
    s.store.Spares (construction.run s).session.store (construction.targets s) := by
  rw [run]
  cases hstart : construction.start s with
  | error fault => exact .refl _ _
  | ok begun =>
    obtain ⟨t, p⟩ := begun
    obtain ⟨hspares, htarget⟩ := start_spares hstart
    simp only
    cases hfinish : p.finish t with
    | error fault => exact hspares
    | ok u =>
      have heq := Pending.finish_eq hfinish
      split at heq
      · exact heq ▸ hspares
      · next a hsome =>
        obtain ⟨-, rfl⟩ := heq
        rw [Pending.attachment?] at hsome
        split at hsome
        · next n c place _ hplace =>
          cases hsome
          exact hspares.link (.inl (htarget c place hplace)) n place
        · cases hsome

lemma Step.run_spares {step : Step} {targets : List NodeId} (h : step.targets? s = some targets) :
    s.store.Spares (step.run s).1.store targets := by
  cases step with
  | act action result? =>
    cases h
    rw [Step.run, Session.store_answer]
    exact action.run_spares s
  | build construction result? =>
    cases h
    rw [Step.run, Session.store_answer]
    exact construction.run_spares s
  | buildWith | within => cases h

end Sparing

lemma agreesOn_of_spares {s t : Store} {touched : List NodeId} {r : NodeId} (h : s.Spares t touched)
    (hs : s.WellFormed) (hr : r < s.size) (hapart : ∀ m ∈ touched, ¬ s.Climbs m r) :
    s.AgreesOn t fun m => s.Climbs m r where
  node m hm := h.node m (hm.lt_size hr) fun hmem => hapart m hmem hm
  closed m c hm hc := .head ((hs.mem_children_iff m c).mp hc) hm

namespace Session

variable {s t : Session} {inside : NodeId → Prop} {r : NodeId}

lemma write_node_eq (h : s.store.AgreesOn t.store inside) (hle : s.store.size ≤ t.store.size) (hr : inside r)
    (step : String) : t.write (.node r) step = s.write (.node r) step := by
  simp only [write_eq, Entity.node, h.rendering hle (some step) hr]

lemma has_node_eq (h : s.store.AgreesOn t.store inside) (hle : s.store.size ≤ t.store.size) (hr : inside r)
    (label : String) : t.has (.node r) label = s.has (.node r) label := by
  simp only [has, Entity.node, h.has? hle _ hr]

lemma argumentsAt_eq {touched : List NodeId} (h : s.store.Spares t.store touched) (hlt : r < s.store.size)
    (hr : r ∉ touched) : t.workspace.argumentsAt (.ofNode r) = s.workspace.argumentsAt (.ofNode r) := by
  have hnode : t.store.node r = { s.store.node r with parent? := t.store.parent? r } :=
    Node.eq_of_detached (h.node r hlt hr)
  have hcontent : (t.store.node r).content = (s.store.node r).content := by rw [hnode]
  exact congrArg (fun c : Content => c.arguments?.getD {}) hcontent

lemma argumentsAt_modifyArguments_of_ne (s : Session) {a b : ArgumentsRef} (hne : b ≠ a)
    (f : Arguments → Arguments) :
    (s.modifyArguments a f).workspace.argumentsAt b = s.workspace.argumentsAt b := by
  cases a with
  | ofNode n =>
    cases b with
    | ofNode m =>
      have hnm : ¬ (n = m ∧ m < s.store.size) := fun h => hne (h.1 ▸ rfl)
      have hnode : (s.store.modify n (·.mapArguments f)).node m = s.store.node m := by
        rw [Store.node_modify, if_neg hnm]
      exact congrArg (fun node : Node => node.content.arguments?.getD {}) hnode
    | free j => rfl
  | free i =>
    cases b with
    | ofNode m => rfl
    | free j =>
      have hij : i ≠ j := fun h => hne (h ▸ rfl)
      simp [modifyArguments, Workspace.modifyArguments, Workspace.argumentsAt, Array.getD_eq_getD_getElem?,
        Array.getElem?_modify, hij]

end Session

/-- A step without steps inside leaves the text of a node, and what is found below it, as they were, unless it
targets the node or one below it; it leaves the arguments of each node that it does not target; and no two nodes
or other objects share their arguments. -/
theorem changes_stay_local {s : Session} (hs : s.Reachable) {step : Step} {targets : List NodeId}
    (hstep : step.targets? s = some targets) :
    (∀ r < s.store.size, (∀ m ∈ targets, ¬ s.store.Climbs m r) →
      (∀ indent, (step.run s).1.write (.node r) indent = s.write (.node r) indent) ∧
      ∀ label, (step.run s).1.has (.node r) label = s.has (.node r) label) ∧
    (∀ m < s.store.size, m ∉ targets →
      (step.run s).1.workspace.argumentsAt (.ofNode m) = s.workspace.argumentsAt (.ofNode m)) ∧
    ∀ a b f, b ≠ a → (s.modifyArguments a f).workspace.argumentsAt b = s.workspace.argumentsAt b := by
  have hspares := Step.run_spares hstep
  -- Each place holds its arguments by value, so the last part is about the places alone.
  refine ⟨fun r hr hapart => ?_, fun m hlt hm => Session.argumentsAt_eq hspares hlt hm,
    fun a b f hne => s.argumentsAt_modifyArguments_of_ne hne f⟩
  have hagrees := agreesOn_of_spares hspares hs.wellFormed.store hr hapart
  exact ⟨Session.write_node_eq hagrees hspares.size_le .refl, Session.has_node_eq hagrees hspares.size_le .refl⟩

theorem changes_stay_local_of_attached_frame :
    let script : List Step := [.act (.make (.frame none)) (some "f"),
      .build (.child "f" (.appendText "a" none)) none, .act (.make (.frame none)) (some "g")]
    let s := (runAll script {}).1
    let t := ((Step.build (.adopt "g" "f" .last) none).run s).1
    t.store.parent? 0 = some 2 ∧ (∀ indent, t.write (.node 0) indent = s.write (.node 0) indent) ∧
      ∀ label, t.has (.node 0) label = s.has (.node 0) label := by
  intro script s t
  have hstep : (Step.build (.adopt "g" "f" .last) none).targets? s = some [2] := by decide
  have hapart : ∀ m ∈ [2], ¬ s.store.Climbs m 0 := by
    simp only [List.forall_mem_singleton]
    exact fun h => absurd (h.eq_of_free (by decide)) (by decide)
  obtain ⟨hlocal, -⟩ := changes_stay_local (reachable_runAll script) hstep
  exact ⟨by decide, hlocal 0 (by decide) hapart⟩

end SlideDeck.Script
