import SlideDeck.Proofs.Script.Construction
import SlideDeck.Proofs.Script.Ownership

/-! Attaching a node after steps on it. Whatever fails, the step leaves what the steps on the node have left,
and where the node has a parent from the start, nothing is run. -/

namespace SlideDeck.Script

structure Completes (steps : List Step) (s t : Session) (answers : List Answer) : Prop where
  runAll_eq : runAll steps s = (t, answers)
  fault? : ∀ a ∈ answers, a.fault? = none

def BreaksOff (steps : List Step) (s t : Session) (answers : List Answer) (fault : Fault) : Prop :=
  ∃ done step rest u before answer, steps = done ++ step :: rest ∧ answers = before ++ [answer] ∧
    Completes done s u before ∧ step.run u = (t, answer) ∧ answer.fault? = some fault

section Inner

variable {step : Step} {steps rest : List Step} {s t : Session} {answers : List Answer} {fault : Fault}

lemma Completes.cons (hstep : (step.run s).2.fault? = none)
    (h : Completes rest (step.run s).1 t answers) :
    Completes (step :: rest) s t ((step.run s).2 :: answers) where
  runAll_eq := by rw [runAll]; simp only [h.runAll_eq]
  fault? a ha := by
    rcases List.mem_cons.mp ha with rfl | ha
    · exact hstep
    · exact h.fault? a ha

lemma completes_cons_iff : Completes (step :: rest) s t answers ↔
    (step.run s).2.fault? = none ∧
      ∃ after, answers = (step.run s).2 :: after ∧ Completes rest (step.run s).1 t after := by
  constructor
  · rintro ⟨hrun, hsound⟩
    obtain ⟨rfl, rfl⟩ := Prod.mk.inj hrun
    exact ⟨hsound _ List.mem_cons_self, _, rfl, rfl, fun a ha => hsound a (List.mem_cons_of_mem _ ha)⟩
  · rintro ⟨hstep, after, rfl, h⟩
    exact h.cons hstep

lemma BreaksOff.cons (hstep : (step.run s).2.fault? = none)
    (h : BreaksOff rest (step.run s).1 t answers fault) :
    BreaksOff (step :: rest) s t ((step.run s).2 :: answers) fault := by
  obtain ⟨done, last, left, u, before, answer, rfl, rfl, hdone, hlast⟩ := h
  exact ⟨step :: done, last, left, u, (step.run s).2 :: before, answer, rfl, rfl, hdone.cons hstep, hlast⟩

lemma runUntilFault_eq_of_completes (h : Completes steps s t answers) :
    Step.runUntilFault steps s = (t, answers) := by
  induction steps generalizing s answers with
  | nil =>
    rw [Step.runUntilFault]
    exact h.runAll_eq
  | cons step rest ih =>
    obtain ⟨hstep, after, rfl, hrest⟩ := completes_cons_iff.mp h
    rw [Step.runUntilFault_cons_of_sound _ hstep, ih hrest]

lemma runUntilFault_eq_of_breaksOff (h : BreaksOff steps s t answers fault) :
    Step.runUntilFault steps s = (t, answers) := by
  obtain ⟨done, step, rest, u, before, answer, rfl, rfl, hdone, hstep, hfault⟩ := h
  induction done generalizing s before with
  | nil =>
    obtain ⟨rfl, rfl⟩ := Prod.mk.inj hdone.runAll_eq
    have hfault' : (step.run s).2.fault? = some fault := by rw [hstep]; exact hfault
    rw [List.nil_append, Step.runUntilFault_cons_of_fault _ hfault', hstep]
    rfl
  | cons first done ih =>
    obtain ⟨hfirst, after, rfl, hafter⟩ := completes_cons_iff.mp hdone
    rw [List.cons_append, Step.runUntilFault_cons_of_sound _ hfirst, ih after hafter]
    rfl

lemma Completes.firstFault? (h : Completes steps s t answers) : Answer.firstFault? answers = none :=
  List.findSome?_eq_none_iff.mpr h.fault?

lemma BreaksOff.firstFault? (h : BreaksOff steps s t answers fault) :
    Answer.firstFault? answers = some fault := by
  obtain ⟨done, step, rest, u, before, answer, -, rfl, hdone, -, hfault⟩ := h
  have hbefore : before.findSome? Answer.fault? = none := hdone.firstFault?
  rw [Answer.firstFault?, List.findSome?_append, hbefore]
  simp [hfault]

lemma completes_or_breaksOff (steps : List Step) (s : Session) :
    (∃ t answers, Completes steps s t answers) ∨ ∃ t answers fault, BreaksOff steps s t answers fault := by
  induction steps generalizing s with
  | nil => exact .inl ⟨s, [], rfl, by simp⟩
  | cons step rest ih =>
    cases hstep : (step.run s).2.fault? with
    | some fault =>
      exact .inr ⟨_, _, fault, [], step, rest, s, [], _, rfl, rfl, ⟨rfl, by simp⟩, rfl, hstep⟩
    | none =>
      obtain ⟨t, answers, h⟩ | ⟨t, answers, fault, h⟩ := ih (step.run s).1
      · exact .inl ⟨t, _, h.cons hstep⟩
      · exact .inr ⟨t, _, fault, h.cons hstep⟩

end Inner

/-- How a step ends that attaches a node to a container after `steps` on the node, which begin in `s`. -/
structure AttachesAfter (steps : List Step) (s : Session) (c n : NodeId) (place : Place)
    (result? : Option String) (r : Session × Answer) : Prop where
  ends : (∃ t inner, Completes steps s t inner) ∨ ∃ t inner fault, BreaksOff steps s t inner fault
  succeeds_iff : r.2.fault? = none ↔ ∃ t inner, Completes steps s t inner ∧ t.store.parent? n = none
  attaches {t : Session} {inner : List Answer} (h : Completes steps s t inner)
    (hfree : t.store.parent? n = none) :
    let done := (t.withStore (t.store.link c n place)).conclude result? (.node n)
    r = (done.1, .nested (.ok done.2) inner)
  refuses {t : Session} {inner : List Answer} {p : NodeId} (h : Completes steps s t inner)
    (hp : t.store.parent? n = some p) : r = (t, .nested (.error (t.ownedFault n p)) inner)
  passes {t : Session} {inner : List Answer} {fault : Fault} (h : BreaksOff steps s t inner fault) :
    r = (t, .nested (.error fault) inner)

lemma AttachesAfter.exists_of_fault {steps : List Step} {s : Session} {c n : NodeId} {place : Place}
    {result? : Option String} {r : Session × Answer} {fault : Fault}
    (h : AttachesAfter steps s c n place result? r) (hfault : r.2.fault? = some fault) :
    ∃ t inner, r = (t, .nested (.error fault) inner) ∧ (BreaksOff steps s t inner fault ∨
      Completes steps s t inner ∧ ∃ p, t.store.parent? n = some p ∧ fault = t.ownedFault n p) := by
  obtain ⟨t, inner, hsteps⟩ | ⟨t, inner, cause, hsteps⟩ := h.ends
  · cases hp : t.store.parent? n with
    | none => simp [h.attaches hsteps hp, Answer.fault?, Answer.outcome] at hfault
    | some p =>
      have hr := h.refuses hsteps hp
      obtain rfl : t.ownedFault n p = fault := by
        simpa [hr, Answer.fault?, Answer.outcome] using hfault
      exact ⟨t, inner, hr, .inr ⟨hsteps, p, hp, rfl⟩⟩
  · have hr := h.passes hsteps
    obtain rfl : cause = fault := by simpa [hr, Answer.fault?, Answer.outcome] using hfault
    exact ⟨t, inner, hr, .inl hsteps⟩

section Attach

variable {s t : Session} {c n : NodeId} {construction : Construction} {place : Place}

lemma build_run (result? : Option String)
    (hstart : construction.start s = .ok (t, { subject := .node n, target? := some (c, place) }))
    (hfree : t.store.parent? n = none) :
    let done := (t.withStore (t.store.link c n place)).conclude result? (.node n)
    (Step.build construction result?).run s = (done.1, .plain (.ok done.2) []) := by
  have hfinish := Pending.finish_node t c n place
  rw [Session.checkFree_of_free hfree] at hfinish
  rw [Step.run, Construction.run, hstart]
  simp only [hfinish, Except.map, Session.answer]
  cases s.logger.level? <;> rfl

lemma build_run_of_error {fault : Fault} (result? : Option String)
    (hstart : construction.start s = .error fault) :
    (Step.build construction result?).run s = (s, .plain (.error fault) []) := by
  rw [Step.run, Construction.run, hstart]
  cases hlevel : s.logger.level? <;> simp [Session.answer, Log.visible, hlevel]

lemma buildWith_run_of_error {fault : Fault} (subject? result? : Option String) (steps : List Step)
    (hstart : construction.start s = .error fault) :
    (Step.buildWith construction subject? steps result?).run s = (s, .plain (.error fault) []) := by
  rw [Step.run, hstart]

lemma attachesAfter_buildWith (subject? result? : Option String) (steps : List Step)
    (hstart : construction.start s = .ok (t, { subject := .node n, target? := some (c, place) })) :
    AttachesAfter steps (t.bind subject? (.node n)) c n place result?
      ((Step.buildWith construction subject? steps result?).run s) := by
  have hattaches {u : Session} {inner : List Answer} (h : Completes steps (t.bind subject? (.node n)) u inner)
      (hfree : u.store.parent? n = none) :
      let done := (u.withStore (u.store.link c n place)).conclude result? (.node n)
      (Step.buildWith construction subject? steps result?).run s =
        (done.1, .nested (.ok done.2) inner) := by
    rw [Step.run, hstart]
    simp only [runUntilFault_eq_of_completes h, h.firstFault?, Pending.finish_node,
      Session.checkFree_of_free hfree, Except.map]
  have hrefuses {u : Session} {inner : List Answer} {p : NodeId}
      (h : Completes steps (t.bind subject? (.node n)) u inner) (hp : u.store.parent? n = some p) :
      (Step.buildWith construction subject? steps result?).run s =
        (u, .nested (.error (u.ownedFault n p)) inner) := by
    rw [Step.run, hstart]
    simp only [runUntilFault_eq_of_completes h, h.firstFault?, Pending.finish_node,
      Session.checkFree_of_parent? hp, Except.map]
  have hpasses {u : Session} {inner : List Answer} {fault : Fault}
      (h : BreaksOff steps (t.bind subject? (.node n)) u inner fault) :
      (Step.buildWith construction subject? steps result?).run s = (u, .nested (.error fault) inner) := by
    rw [Step.run, hstart]
    simp only [runUntilFault_eq_of_breaksOff h, h.firstFault?]
  have hends := completes_or_breaksOff steps (t.bind subject? (.node n))
  refine ⟨hends, ⟨fun hsound => ?_, ?_⟩, hattaches, hrefuses, hpasses⟩
  · obtain ⟨u, inner, h⟩ | ⟨u, inner, fault, h⟩ := hends
    · refine ⟨u, inner, h, ?_⟩
      cases hp : u.store.parent? n with
      | none => rfl
      | some p => simp [hrefuses h hp, Answer.fault?, Answer.outcome] at hsound
    · simp [hpasses h, Answer.fault?, Answer.outcome] at hsound
  · rintro ⟨u, inner, h, hfree⟩
    simp [hattaches h hfree, Answer.fault?, Answer.outcome]

end Attach

/-- A node that has a parent is refused before anything is done. A node without one is attached exactly if the
steps on it are completed and leave it without a parent; else the step fails with the fault of these steps or
because the node has a parent now, and the state is the one that these steps have left. The same holds for the
builders, whose node is new. -/
theorem failed_attachment_leaves_no_trace {s : Session} {on : String} {e : Entity}
    (hon : s.lookup on = .ok e) (subject? result? : Option String) (steps : List Step) :
    (∀ node place c n, s.containerFor e (.ofPlace place) = .ok c → s.lookup node = .ok (.node n) →
      let begun := s.bind subject? (.node n)
      let plain := (Step.build (.adopt on node place) result?).run s
      let nested := (Step.buildWith (.adopt on node place) subject? steps result?).run s
      (plain.2.fault? = none ↔ s.store.parent? n = none) ∧
      (nested.2.fault? = none ↔ s.store.parent? n = none ∧
        ∃ t inner, Completes steps begun t inner ∧ t.store.parent? n = none) ∧
      (∀ p, s.store.parent? n = some p →
        plain = (s, .plain (.error (s.ownedFault n p)) []) ∧
        nested = (s, .plain (.error (s.ownedFault n p)) [])) ∧
      (s.store.parent? n = none →
        plain.1.store = s.store.link c n place ∧
        AttachesAfter steps begun c n place result? nested)) ∧
    ∀ builder c, s.containerFor e builder.method = .ok c →
      let n := s.store.size
      let made := (s.store.create (builder.draft (s.store.kind c))).1
      let begun := (s.withStore made).bind subject? (.node n)
      let plain := (Step.build (.child on builder) result?).run s
      let nested := (Step.buildWith (.child on builder) subject? steps result?).run s
      (∀ m < n, made.node m = s.store.node m) ∧ made.parent? n = none ∧
      plain.2.fault? = none ∧ plain.1.store = made.link c n .last ∧
      AttachesAfter steps begun c n .last result? nested ∧
      ∀ fault, nested.2.fault? = some fault →
        ∃ t inner, nested = (t, .nested (.error fault) inner) ∧
          (BreaksOff steps begun t inner fault ∨ Completes steps begun t inner ∧
            ∃ p, t.store.parent? n = some p ∧ fault = t.ownedFault n p) := by
  refine ⟨fun node place c n hc hnode => ?_, fun builder c hc => ?_⟩
  · have hstart := adopt_start hon hc hnode
    cases hp : s.store.parent? n with
    | some p =>
      rw [Session.checkFree_of_parent? hp] at hstart
      have hplain := build_run_of_error result? hstart
      have hnested := buildWith_run_of_error subject? result? steps hstart
      simp [hplain, hnested, Answer.fault?, Answer.outcome]
    | none =>
      rw [Session.checkFree_of_free hp] at hstart
      have hplain := build_run result? hstart hp
      have hnested := attachesAfter_buildWith subject? result? steps hstart
      refine ⟨?_, ?_, by simp, fun _ => ⟨?_, hnested⟩⟩
      · simp [hplain, Answer.fault?, Answer.outcome]
      · simp [hnested.succeeds_iff]
      · rw [hplain]
        exact Session.store_conclude _ _ _
  · have hstart := child_start hon hc
    have hplain := build_run result? hstart (Store.parent?_create_size _)
    have hnested := attachesAfter_buildWith subject? result? steps hstart
    refine ⟨fun m hm => Store.node_create_of_lt _ _ hm, Store.parent?_create_size _, ?_, ?_, hnested,
      fun fault hfault => ?_⟩
    · simp [hplain, Answer.fault?, Answer.outcome]
    · rw [hplain]
      exact Session.store_conclude _ _ _
    · exact hnested.exists_of_fault hfault

theorem failed_attachment_leaves_no_trace_of_lists :
    let script : List Step := [.act (.make (.frame none)) (some "f"),
      .act (.make (.frame none)) (some "g"), .act (.make .itemize) (some "i")]
    let s := (runAll script {}).1
    let elsewhere : List Step := [.build (.adopt "g" "x" .first) none]
    let failing : List Step := [.build (.child "x" (.appendText "a" none)) none,
      .act (.fail "stop") none, .build (.child "x" (.appendText "b" none)) none]
    let adopted := (Step.buildWith (.adopt "f" "i" .last) (some "x") elsewhere none).run s
    let built := (Step.buildWith (.child "f" .itemize) (some "x") failing none).run s
    adopted.2.fault? = some (.owned { node := .itemize, parent := .frame }) ∧
    adopted.1 = (runAll elsewhere (s.bind (some "x") (.node 2))).1 ∧
    adopted.1.store.children 0 = [] ∧ adopted.1.store.children 1 = [2] ∧
    built.2.fault? = some (.failure "stop") ∧ built.1.store.children 0 = [] ∧
    built.1.store.children 3 = [4] := by
  intro script s elsewhere failing adopted built
  have hon : s.lookup "f" = .ok (.node 0) := rfl
  obtain ⟨hadopt, -⟩ := failed_attachment_leaves_no_trace hon (some "x") none elsewhere
  obtain ⟨-, -, -, hfree⟩ := hadopt "i" .last 0 2 rfl rfl
  have hadopted : adopted = _ := (hfree (by decide)).2.refuses (p := 1) ⟨rfl, by decide⟩ (by decide)
  obtain ⟨-, hchild⟩ := failed_attachment_leaves_no_trace hon (some "x") none failing
  obtain ⟨-, -, -, -, hafter, -⟩ := hchild .itemize 0 rfl
  have hbuilt : built = _ := hafter.passes
    ⟨[_], _, [_], _, _, _, rfl, rfl, ⟨rfl, by decide⟩, rfl, rfl⟩
  rw [hadopted, hbuilt]
  exact ⟨by decide, rfl, by decide, by decide, by decide, by decide, by decide⟩

end SlideDeck.Script
