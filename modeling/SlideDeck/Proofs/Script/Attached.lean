import SlideDeck.Proofs.Script.Commuting
import SlideDeck.Proofs.Script.Confining

/-! What a session shows after an attachment. Of most objects it shows what it has shown before; of nodes it
does so in a region that does not hold the container, if no parent is asked for. -/

namespace SlideDeck.Script

namespace Session

def attach (a : Attachment) (s : Session) : Session := s.withStore (a.apply s.store)

variable (a : Attachment) (s : Session)

lemma store_attach : (s.attach a).store = a.apply s.store := rfl

lemma lookup_attach (name : String) : (s.attach a).lookup name = s.lookup name := rfl

lemma deck?_attach (i : ℕ) : (s.attach a).workspace.deck? i = s.workspace.deck? i := rfl

lemma settingsAt_attach (i : ℕ) : (s.attach a).workspace.settingsAt i = s.workspace.settingsAt i := rfl

lemma kind_attach (m : NodeId) : (s.attach a).store.kind m = s.store.kind m := Store.kind_link ..

lemma content_attach (m : NodeId) : ((s.attach a).store.node m).content = (s.store.node m).content := by
  rw [store_attach, Attachment.apply, Store.node_link]

lemma argumentsAt_attach (ref : ArgumentsRef) :
    (s.attach a).workspace.argumentsAt ref = s.workspace.argumentsAt ref := by
  cases ref with
  | ofNode m => exact congrArg (fun c : Content => c.arguments?.getD {}) (content_attach a s m)
  | free i => rfl

lemma typeName_object_attach (o : Object) : o.typeName (s.attach a).store = o.typeName s.store := by
  cases o with
  | node m => exact congrArg Kind.typeName (kind_attach a s m)
  | _ => rfl

lemma typeName_attach (e : Entity) : e.typeName (s.attach a).store = e.typeName s.store := by
  cases e with
  | object o => exact typeName_object_attach a s o
  | _ => rfl

lemma missing_attach {α : Type} (e : Entity) (field : String) :
    ((s.attach a).missing e field : Except Fault α) = s.missing e field := by
  rw [missing, missing, typeName_attach]

lemma noMethod_attach {α : Type} (e : Entity) (method : Method) :
    ((s.attach a).noMethod e method : Except Fault α) = s.noMethod e method := by
  rw [noMethod.eq_def, noMethod.eq_def]
  simp only [missing_attach]

lemma containerFor_attach (e : Entity) (method : Method) :
    (s.attach a).containerFor e method = s.containerFor e method := by
  rw [containerFor.eq_def, containerFor.eq_def]
  simp only [noMethod_attach, kind_attach]
  rfl

lemma reference_attach (o : Object) : (s.attach a).reference o = s.reference o := by
  cases o with
  | node m => simp only [reference, typeName_object_attach, kind_attach]; rfl
  | _ => rfl

lemma present_attach (e : Entity) : (s.attach a).present e = s.present e := by
  cases e with
  | object o =>
    cases o with
    | settings | kind => rfl
    | _ => simp only [present, reference_attach]
  | nodes form members => simp only [present, reference_attach]
  | part owner part => simp only [present, argumentsAt_attach]
  | value v => rfl

lemma bind_attach (name? : Option String) (e : Entity) :
    (s.attach a).bind name? e = (s.bind name? e).attach a := by
  cases name? <;> rfl

lemma conclude_attach (result? : Option String) (e : Entity) :
    (s.attach a).conclude result? e = ((s.conclude result? e).1.attach a, (s.conclude result? e).2) := by
  simp only [conclude, bind_attach, present_attach]

lemma argumentsOf_attach (e : Entity) (field : String) :
    (s.attach a).argumentsOf e field = s.argumentsOf e field := by
  rw [argumentsOf.eq_def, argumentsOf.eq_def]
  simp only [missing_attach, kind_attach]

lemma equal_attach (e f : Entity) : (s.attach a).equal e f = s.equal e f := by
  have hsame (o p : Object) : (s.attach a).sameObject o p = s.sameObject o p := by
    rw [sameObject.eq_def, sameObject.eq_def]
    simp only [argumentsAt_attach]
    rfl
  rw [equal.eq_def, equal.eq_def]
  simp only [present_attach, hsame]

end Session

structure Attachment.Apart (a : Attachment) (inside : NodeId → Prop) (s : Session) : Prop where
  closed : s.Closed inside
  container_lt : a.container < s.store.size
  node_lt : a.node < s.store.size
  outside : ¬ inside a.container

namespace Attachment.Apart

variable {a : Attachment} {inside : NodeId → Prop} {s t : Session} {m : NodeId} {e : Entity}

section

variable (h : a.Apart inside s)

include h

lemma ne_container (hm : inside m) : m ≠ a.container := by
  rintro rfl
  exact h.outside hm

lemma joins : a.Joins s.store (s.attach a).store := ⟨h.container_lt, h.node_lt, rfl⟩

lemma of_confines (ht : t.WellFormed) (hconfines : s.store.Confines t.store inside a.node) :
    a.Apart inside t where
  closed := h.closed.of_confines ht hconfines
  container_lt := h.container_lt.trans_le hconfines.size_le
  node_lt := h.node_lt.trans_le hconfines.size_le
  outside := h.outside

lemma agreesOn : s.store.AgreesOn (s.attach a).store inside where
  node m hm := by
    have hother : ¬ (a.container = m ∧ m < s.store.size) := fun heq => h.ne_container hm heq.1.symm
    rw [Session.store_attach, Attachment.apply, Store.node_link, if_neg hother]
    rfl
  closed m c hm hc := h.closed.below c m ((h.closed.wellFormed.store.mem_children_iff m c).mp hc) hm

lemma size_le : s.store.size ≤ (s.attach a).store.size := h.joins.size.ge

lemma node_eq (hm : inside m) :
    (s.attach a).store.node m = { s.store.node m with parent? := (s.attach a).store.parent? m } :=
  h.agreesOn.node_eq hm

lemma nodeField? (hm : inside m) {name : String} (hname : name ≠ "parent") :
    (s.attach a).nodeField? m name = s.nodeField? m name := by
  rw [Session.nodeField?.eq_def, Session.nodeField?.eq_def, h.node_eq hm]
  simp only
  split
  case h_2 => exact absurd rfl hname
  all_goals rfl

lemma ownField? {o : Object} (ho : (Entity.object o).Inside s.workspace inside) {name : String}
    (hname : (Look.field name).readsParent (.object o) = false) :
    (s.attach a).ownField? o name = s.ownField? o name := by
  cases o with
  | node m => exact h.nodeField? ho (by simpa [Look.readsParent] using hname)
  | arguments ref =>
    simp only [Session.ownField?, Session.argumentsField?.eq_def, Session.argumentsAt_attach]
  | deck | settings | kind => rfl

lemma get (he : e.Inside s.workspace inside) {name : String}
    (hname : (Look.field name).readsParent e = false) : (s.attach a).get e name = s.get e name := by
  cases e with
  | object o =>
    simp only [Session.get, Session.field?, h.ownField? he hname, Session.missing_attach]
    rfl
  | nodes | part => simp only [Session.get, Session.missing_attach]
  | value v =>
    cases v with
    | atom x => cases x <;> simp only [Session.get, Session.missing_attach]
    | _ => simp only [Session.get, Session.missing_attach]

lemma members? (he : e.Inside s.workspace inside) : (s.attach a).members? e = s.members? e := by
  cases e with
  | object o =>
    cases o with
    | node m =>
      have hchildren : (s.attach a).store.children m = s.store.children m := h.agreesOn.children he
      simp only [Session.members?, Session.kind_attach, hchildren]
    | _ => rfl
  | nodes form members => rfl
  | part owner part => simp only [Session.members?, Session.argumentsAt_attach]
  | value v =>
    cases v with
    | atom x => cases x <;> rfl
    | _ => rfl

lemma count? (he : e.Inside s.workspace inside) : (s.attach a).count? e = s.count? e := by
  have hmembers := h.members? he
  cases e with
  | object o =>
    cases o with
    | settings i => rfl
    | _ => simp only [Session.count?, hmembers]
  | _ => simp only [Session.count?, hmembers]

lemma isFalse (he : e.Inside s.workspace inside) : (s.attach a).isFalse e = s.isFalse e := by
  have hcount := h.count? he
  cases e with
  | value v =>
    cases v with
    | atom => rfl
    | _ => simp only [Session.isFalse, hcount]
  | _ => simp only [Session.isFalse, hcount]

lemma has (he : e.Inside s.workspace inside) (label : String) : (s.attach a).has e label = s.has e label := by
  have hfind (kind : Kind) {m : NodeId} (hm : inside m) : (s.attach a).store.has? kind m = s.store.has? kind m :=
    h.agreesOn.has? h.size_le kind hm
  cases e with
  | object o =>
    cases o with
    | node m => simp only [Session.has, hfind _ he]
    | deck i =>
      simp only [Session.has, Session.missing_attach, Session.deck?_attach]
      cases hd : s.workspace.deck? i with
      | none => rfl
      | some d => simp only [hfind _ (he d hd).1]
    | _ => simp only [Session.has, Session.missing_attach]
  | _ => simp only [Session.has, Session.missing_attach]

lemma account (he : e.Inside s.workspace inside) (hread : Look.dump.readsParent e = false) :
    (s.attach a).account e = s.account e := by
  have hslides (x : Entity) (hx : x.Inside s.workspace inside) :
      ((do let _ ← (s.attach a).get x "slides"; (s.attach a).missing x "parent") : Except Fault Entity) =
        (do let _ ← s.get x "slides"; s.missing x "parent") := by
    rw [h.get hx (Look.readsParent_slides x), Session.missing_attach]
  cases e with
  | object o =>
    cases o with
    | node m => simp [Look.readsParent] at hread
    | arguments ref => simp only [Session.account, Session.argumentsAt_attach]
    | _ => exact hslides _ he
  | _ => exact hslides _ he

lemma describeNode (hm : inside m) :
    Script.describeNode ((s.attach a).store.node m) = Script.describeNode (s.store.node m) := by
  rw [h.node_eq hm]
  rfl

lemma describe (he : e.Inside s.workspace inside) : (s.attach a).describe e = s.describe e := by
  cases e with
  | object o =>
    cases o with
    | node m => exact h.describeNode he
    | arguments ref => simp only [Session.describe, Session.argumentsAt_attach]
    | _ => rfl
  | _ => rfl

lemma rendering (step? : Option String) (hm : inside m) :
    (s.attach a).store.rendering step? m = s.store.rendering step? m :=
  h.agreesOn.rendering h.size_le step? hm

lemma deckRendering {d : Deck} (hd : inside d.document ∧ inside d.preamble ∧ inside d.header) :
    (s.attach a).deckRendering d = s.deckRendering d := by
  obtain ⟨hdocument, hpreamble, hheader⟩ := hd
  simp only [Session.deckRendering, Deck.rendering, Deck.codeRendering, Session.settingsAt_attach,
    h.rendering _ hpreamble, h.rendering _ hheader, h.rendering _ hdocument,
    h.agreesOn.has? h.size_le .code hdocument]

lemma write (he : e.Inside s.workspace inside) (step : String) : (s.attach a).write e step = s.write e step := by
  cases e with
  | object o =>
    cases o with
    | node m => simp only [Session.write_eq, h.rendering _ he]
    | deck i =>
      simp only [Session.write_eq, Session.missing_attach, Session.deck?_attach]
      cases hd : s.workspace.deck? i with
      | none => rfl
      | some d => simp only [h.deckRendering (he d hd)]
    | _ => simp only [Session.write_eq, Session.missing_attach]
  | _ => simp only [Session.write_eq, Session.missing_attach]

lemma print (he : e.Inside s.workspace inside) : (s.attach a).print e = s.print e := by
  cases e with
  | object o =>
    cases o with
    | node | deck => exact h.write he standardIndent
    | arguments ref => simp only [Session.print_eq, Session.argumentsAt_attach]
    | _ => rfl
  | nodes form members =>
    have hitems : members.map (s.attach a).describeItem = members.map s.describeItem := by
      refine List.map_congr_left fun m hm => ?_
      simp only [Session.describeItem, h.describeNode (he m hm), Session.kind_attach]
    simp only [Session.print_eq, hitems]
  | part owner part => simp only [Session.print_eq, Session.present_attach]
  | value v =>
    cases v with
    | atom x => cases x <;> simp only [Session.print_eq, Session.present_attach]
    | _ => simp only [Session.print_eq, Session.present_attach]

lemma look (he : e.Inside s.workspace inside) {question : Look} (hread : question.readsParent e = false) :
    (s.attach a).look e question = s.look e question := by
  cases question with
  | has label => simp only [Session.look, Session.ask, h.has he]
  | field name => simp only [Session.look, Session.ask, h.get he hread]
  | count => simp only [Session.look, Session.ask, h.count? he]
  | list => simp only [Session.look, Session.ask, h.members? he]
  | dump => simp only [Session.look, Session.ask, h.account he hread]
  | describe => simp only [Session.look, Session.ask, h.describe he]
  | equal other => simp only [Session.look, Session.ask, Session.lookup_attach, Session.equal_attach]
  | print => exact h.print he
  | write step? => exact h.write he _

end

end Attachment.Apart

end SlideDeck.Script
