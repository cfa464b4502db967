import SlideDeck.Proofs.Script.Binding
import SlideDeck.Proofs.Script.Interchange
import SlideDeck.Proofs.Store.Cycles

/-! A node that is configured before it is attached, inside the call that attaches it, or after that: where the
steps keep to the node, what is below it and what they make, all end in the same tree. -/

namespace SlideDeck

/-- What the steps on a node may work on: the node, what is below it, and the nodes that they make. -/
def Store.Domain (s : Store) (n m : NodeId) : Prop := s.Climbs m n ∨ s.size ≤ m

namespace Script

section

variable {s t : Session} {c n : NodeId} {on : String} {subject? : Option String} {steps : List Step}
  {inner : List Answer}

lemma Session.WellFormed.closed_domain (hs : s.WellFormed) (n : NodeId) : s.Closed (s.store.Domain n) where
  wellFormed := hs
  below m p hp hinside := by
    rcases hinside with hclimbs | hle
    · exact .inl (.head hp hclimbs)
    · exact absurd (hs.store.parent_lt_size hp) (Nat.not_lt_of_le hle)
  fresh m hle := .inr hle

lemma Session.WellFormed.apart_domain (hs : s.WellFormed) (hc : c < s.store.size) (hn : n < s.store.size)
    (hbelow : ¬ s.store.Climbs c n) (place : Place) :
    Attachment.Apart ⟨c, n, place⟩ (s.store.Domain n) s where
  closed := hs.closed_domain n
  container_lt := hc
  node_lt := hn
  outside h := h.elim hbelow (Nat.not_le_of_lt hc)

lemma within_run (hon : s.lookup on = .ok (.node n))
    (hran : Step.runUntilFault steps (s.bind subject? (.node n)) = (t, inner)) :
    (Step.within on subject? steps).run s = (t, .nested (match Answer.firstFault? inner with
      | some fault => .error fault
      | none => .ok (t.present (.node n))) inner) := by
  rw [Step.run, hon]
  simp only [Entity.node] at hran ⊢
  rw [hran]
  cases Answer.firstFault? inner <;> rfl

lemma Session.write_conclude (s : Session) (result? : Option String) (e f : Entity) (indent : String) :
    (s.conclude result? e).1.write f indent = s.write f indent := by
  rw [write_eq, write_eq]
  cases result? <;> rfl

end

/-- How three ways to attach a node end that begin in `s`, where the steps on the node begin in `begun`: the
steps inside the call that attaches the node, the steps after that call, and the steps alone, which the call is to
follow. -/
structure AttachesAlike (steps : List Step) (s begun : Session) (a : Attachment) (result? : Option String)
    (init entered alone : Session × Answer) : Prop where
  ends : (∃ t inner, Completes steps begun t inner) ∨ ∃ t inner fault, BreaksOff steps begun t inner fault
  completed {t : Session} {inner : List Answer} (h : Completes steps begun t inner) :
    let done := (t.attach a).conclude result? (.node a.node)
    init = (done.1, .nested (.ok done.2) inner) ∧
    entered = (t.attach a, .nested (.ok (t.present (.node a.node))) inner) ∧
    alone = (t, .nested (.ok (t.present (.node a.node))) inner) ∧
    ∀ on node e, t.lookup on = .ok e → t.containerFor e (.ofPlace a.place) = .ok a.container →
      t.lookup node = .ok (.node a.node) →
      (Step.build (.adopt on node a.place) result?).run t = (done.1, .plain (.ok done.2) [])
  same_text {t : Session} {inner : List Answer} (h : Completes steps begun t inner) (e : Entity)
    (indent : String) : init.1.write e indent = entered.1.write e indent
  brokenOff {t : Session} {inner : List Answer} {fault : Fault} (h : BreaksOff steps begun t inner fault) :
    init = (t, .nested (.error fault) inner) ∧ t.store.parent? a.node = none ∧
    t.store.node a.container = s.store.node a.container ∧
    entered = (t.attach a, .nested (.error fault) inner) ∧
    (t.attach a).store.node a.node = { t.store.node a.node with parent? := some a.container } ∧
    (t.attach a).store.children a.container = a.place.insert a.node (s.store.children a.container)

section

variable {a : Attachment} {inside : NodeId → Prop} {s begun u v : Session} {on first : String}
  {subject? result? : Option String} {steps : List Step} {init : Session × Answer}

lemma attachesAlike (h : a.Apart inside begun) (hinside : inside a.node)
    (hkeeps : Step.AllKeepTo inside a.node steps begun) (hfree : begun.store.parent? a.node = none)
    (hsame : begun.store.node a.container = s.store.node a.container)
    (hinit : AttachesAfter steps begun a.container a.node a.place result? init)
    (hon : u.lookup on = .ok (.node a.node)) (hu : u.bind subject? (.node a.node) = begun.attach a)
    (hfirst : v.lookup first = .ok (.node a.node)) (hv : v.bind subject? (.node a.node) = begun) :
    AttachesAlike steps s begun a result? init ((Step.within on subject? steps).run u)
      ((Step.within first subject? steps).run v) := by
  have hconfines := Step.runUntilFault_confines steps begun h.closed h.node_lt hkeeps
  have hattached := Step.runUntilFault_attach steps begun h hkeeps
  have hcompleted {t : Session} {inner : List Answer} (hsteps : Completes steps begun t inner) :
      let done := (t.attach a).conclude result? (.node a.node)
      init = (done.1, .nested (.ok done.2) inner) ∧
      (Step.within on subject? steps).run u = (t.attach a, .nested (.ok (t.present (.node a.node))) inner) ∧
      (Step.within first subject? steps).run v = (t, .nested (.ok (t.present (.node a.node))) inner) := by
    have hran := runUntilFault_eq_of_completes hsteps
    rw [hran] at hattached hconfines
    refine ⟨hinit.attaches hsteps (hconfines.parent?.trans hfree), ?_, ?_⟩
    · rw [within_run hon (hu ▸ hattached), hsteps.firstFault?, Session.present_attach]
    · rw [within_run hfirst (hv ▸ hran), hsteps.firstFault?]
  refine ⟨hinit.ends, ?_, ?_, ?_⟩
  · intro t inner hsteps
    obtain ⟨hends, hentered, halone⟩ := hcompleted hsteps
    refine ⟨hends, hentered, halone, fun on' node e he hc hnode => ?_⟩
    have hran := runUntilFault_eq_of_completes hsteps
    rw [hran] at hconfines
    have hfree' := hconfines.parent?.trans hfree
    refine build_run result? ?_ hfree'
    rw [adopt_start he hc hnode, Session.checkFree_of_free hfree']
    rfl
  · intro t inner hsteps e indent
    obtain ⟨hends, hentered, -⟩ := hcompleted hsteps
    rw [hends, hentered, Session.write_conclude]
  · intro t inner fault hsteps
    have hran := runUntilFault_eq_of_breaksOff hsteps
    rw [hran] at hattached hconfines
    have hcontainer := (hconfines.node a.container h.container_lt h.outside).trans hsame
    have hlt : a.container < t.store.size := h.container_lt.trans_le hconfines.size_le
    have hlt' : a.node < t.store.size := h.node_lt.trans_le hconfines.size_le
    refine ⟨hinit.passes hsteps, hconfines.parent?.trans hfree, hcontainer, ?_, ?_, ?_⟩
    · rw [within_run hon (hu ▸ hattached), hsteps.firstFault?]
    · have hne : ¬ (a.container = a.node ∧ a.node < t.store.size) := fun heq =>
        h.ne_container hinside heq.1.symm
      rw [Session.store_attach, Attachment.apply, Store.node_link, if_pos ⟨rfl, hlt'⟩, if_neg hne]
      rfl
    · rw [Session.store_attach, Attachment.apply, Store.children_link _ _ _ hlt, if_pos rfl, Store.children,
        hcontainer, Store.children]

end

/-- Steps on a free node that keep to it, to what is below it and to what they make, and that neither attach it nor
read a parent, end in the same tree whether they are run inside the call that attaches the node, after that call, or
before it; so the same is written of everything. Where one of the steps fails, the call that they are inside of
attaches nothing, and the call before them has attached the node, with what they have made of it. The same holds
for the builders, whose node is new. -/
theorem init_and_with_agree {s : Session} (hs : s.Reachable) {on : String} {e : Entity} (hon : s.lookup on = .ok e)
    (result? : Option String) (steps : List Step) :
    (∀ node place c n subject?, s.containerFor e (.ofPlace place) = .ok c → s.lookup node = .ok (.node n) →
      s.store.parent? n = none → ¬ s.store.Climbs c n →
      Step.AllKeepTo (s.store.Domain n) n steps (s.bind subject? (.node n)) →
      let added := (Step.build (.adopt on node place) none).run s
      AttachesAlike steps s (s.bind subject? (.node n)) ⟨c, n, place⟩ result?
        ((Step.buildWith (.adopt on node place) subject? steps result?).run s)
        ((Step.within node subject? steps).run added.1) ((Step.within node subject? steps).run s)) ∧
    ∀ builder c x, s.containerFor e builder.method = .ok c →
      let n := s.store.size
      let draft := builder.draft (s.store.kind c)
      let begun := (s.withStore (s.store.create draft).1).bind (some x) (.node n)
      Step.AllKeepTo (begun.store.Domain n) n steps begun →
      let made := (Step.act (.make draft) (some x)).run s
      let added := (Step.build (.child on builder) (some x)).run s
      AttachesAlike steps s begun ⟨c, n, .last⟩ result?
        ((Step.buildWith (.child on builder) (some x) steps result?).run s)
        ((Step.within x none steps).run added.1) ((Step.within x none steps).run made.1) := by
  have hw := hs.wellFormed
  refine ⟨fun node place c n subject? hc hnode hfree hbelow hkeeps => ?_, fun builder c x hc => ?_⟩
  · have hcontainer := hw.containerFor (hw.lookup hon)
      (fun kind hk => by cases place <;> simpa [Method.ofPlace, Method.isOf] using hk) hc
    have hapart := hw.apart_domain hcontainer.lt_size (hw.lookup hnode) hbelow place
    have hstart := adopt_start hon hc hnode
    rw [Session.checkFree_of_free hfree] at hstart
    have hbegun := hapart.enter hnode subject?
    rw [build_run none hstart hfree]
    refine attachesAlike hbegun (.inl .refl) hkeeps ?_ ?_ (attachesAfter_buildWith subject? result? steps hstart)
      hnode (Session.bind_attach ⟨c, n, place⟩ s subject? (.node n)) hnode rfl
    · rwa [Session.store_bind]
    · rw [Session.store_bind]
  · intro n draft begun hkeeps made added
    have hcontainer := hw.containerFor (hw.lookup hon) builder.isContainer_of_isOf hc
    have hstart := child_start hon hc
    have hbegun : begun.WellFormed := (hw.start hstart (some x)).1
    have hfree : begun.store.parent? n = none := Store.parent?_create_size draft
    have hbelow : ¬ begun.store.Climbs c n := fun h =>
      Nat.lt_irrefl _ ((Store.climbs_create hw.store draft hcontainer.lt_size).mp h).2
    have hlt : n < begun.store.size := Store.size_lt_size_create s.store draft
    have hapart := hbegun.apart_domain (hcontainer.lt_size.trans hlt) hlt hbelow .last
    have hadded : added.1 = begun.attach ⟨c, n, .last⟩ := by
      have hrun := build_run (some x) hstart hfree
      exact congrArg Prod.fst hrun
    have hmade : made.1 = begun := by
      change ((s.withStore (s.store.create draft).1).bind (some x) (.node (s.store.create draft).2)) = begun
      rw [Store.create_snd]
    rw [hadded, hmade]
    have hx : begun.lookup x = .ok (.node n) := Session.lookup_bind _ _ _
    exact attachesAlike hapart (.inl .refl) hkeeps hfree (Store.node_create_of_lt _ draft hcontainer.lt_size)
      (attachesAfter_buildWith (some x) result? steps hstart) hx rfl hx rfl

theorem init_and_with_agree_on_lists :
    let script : List Step := [.act (.make (.frame none)) (some "f"), .act (.make .itemize) (some "i")]
    let s := (runAll script {}).1
    let centring : List Step :=
      [.buildWith (.child "x" .center) (some "y") [.build (.child "y" (.appendText "a" none)) none] none,
        .within "y" none [.build (.child "y" (.appendText "b" none)) none]]
    let init := (Step.buildWith (.adopt "f" "i" .last) (some "x") centring none).run s
    let added := (Step.build (.adopt "f" "i" .last) none).run s
    let entered := (Step.within "i" (some "x") centring).run added.1
    let failing : List Step := [.build (.child "x" (.appendText "a" none)) none, .act (.fail "stop") none]
    let built := (Step.buildWith (.child "f" .itemize) (some "x") failing none).run s
    let opened := (Step.within "x" none failing).run ((Step.build (.child "f" .itemize) (some "x")).run s).1
    init.1.store = entered.1.store ∧ init.1.store.children 0 = [1] ∧ init.1.store.children 2 = [3, 4] ∧
      init.1.write (.node 0) "  " = entered.1.write (.node 0) "  " ∧
      built.1.store.children 0 = [] ∧ built.1.store.parent? 2 = none ∧ opened.1.store.children 0 = [2] ∧
      opened.1.store.children 2 = [3] := by
  intro script s centring init added entered failing built opened
  have hon : s.lookup "f" = .ok (.node 0) := rfl
  have hs : s.Reachable := reachable_runAll script
  obtain ⟨hadopt, -⟩ := init_and_with_agree hs hon none centring
  have hkeeps : Step.AllKeepTo (s.store.Domain 1) 1 centring (s.bind (some "x") (.node 1)) := by
    refine ⟨⟨.of_eq rfl (.inl .refl), fun t p hstart => ?_⟩, fun _ => ⟨fun m hm => ?_, fun _ => trivial⟩⟩
    · obtain ⟨rfl, rfl⟩ := Prod.mk.inj (Except.ok.inj hstart)
      exact ⟨.of_eq rfl (.inr (by decide)), fun _ => trivial⟩
    · obtain rfl := Object.node.inj (Entity.object.inj (Except.ok.inj hm))
      exact ⟨.of_eq rfl (.inr (by decide)), fun _ => trivial⟩
  have hlist := hadopt "i" .last 0 1 (some "x") rfl rfl (by decide)
    (fun h => absurd (h.eq_of_free (by decide)) (by decide)) hkeeps
  have hcentring : Completes centring (s.bind (some "x") (.node 1)) _ _ := ⟨rfl, by decide⟩
  obtain ⟨hinit, hentered, -⟩ := hlist.completed hcentring
  have htext := hlist.same_text hcentring (.node 0) "  "
  obtain ⟨-, hchild⟩ := init_and_with_agree hs hon none failing
  have hlist := hchild .itemize 0 "x" rfl ⟨.of_eq rfl (.inl .refl), fun _ => ⟨trivial, fun _ => trivial⟩⟩
  have hbuilt := hlist.brokenOff ⟨[_], _, [], _, [_], _, rfl, rfl, ⟨rfl, by decide⟩, rfl, rfl⟩
  obtain ⟨hends, hfree, hframe, hopened, -, hchildren⟩ := hbuilt
  have hinit : init = _ := hinit
  have hentered : entered = _ := hentered
  have hends : built = _ := hends
  have hopened : opened = _ := hopened
  refine ⟨?_, by decide, by decide, htext, ?_, ?_, ?_, by decide⟩
  · rw [hinit, hentered, Session.store_conclude]
  · rw [hends]
    exact congrArg Node.children hframe
  · rw [hends]
    exact hfree
  · rw [hopened]
    exact hchildren

end Script

end SlideDeck
