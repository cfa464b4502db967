import SlideDeck.Proofs.Script.History

/-! The children of a container at every moment of a script are told by the history up to that moment, so that
what is in a container keeps its neighbours. -/

namespace SlideDeck.Script

/-- A session in the course of a script, with what has been attached up to it. -/
structure Snapshot where
  session : Session
  log : List Attachment

namespace Snapshot

def start : Snapshot := ⟨{}, []⟩

abbrev store (m : Snapshot) : Store := m.session.store

def after (m : Snapshot) (step : Step) : Snapshot where
  session := (step.run m.session).1
  log := m.log ++ step.history m.session

def afterInner (m : Snapshot) (steps : List Step) : Snapshot where
  session := (Step.runUntilFault steps m.session).1
  log := m.log ++ Step.historyUntilFault steps m.session

end Snapshot

mutual

def Step.snapshots : Step → Snapshot → List Snapshot
  | .act _ _, _ | .build _ _, _ => []
  | .buildWith construction subject? steps _, m =>
    match construction.start m.session with
    | .error _ => []
    | .ok (t, p) =>
      Step.snapshotsUntilFault steps
        ⟨t.bind subject? p.subject, m.log ++ construction.attachments m.session⟩
  | .within on subject? steps, m =>
    match m.session.lookup on with
    | .ok (.object (.node n)) => Step.snapshotsUntilFault steps ⟨m.session.bind subject? (.node n), m.log⟩
    | _ => []

def Step.snapshotsUntilFault : List Step → Snapshot → List Snapshot
  | [], m => [m]
  | step :: rest, m =>
    m :: step.snapshots m ++
      match (step.run m.session).2.fault? with
      | some _ => [m.after step]
      | none => Step.snapshotsUntilFault rest (m.after step)

end

/-- The snapshots between the steps of a script, at any depth and in the order of time. -/
def snapshots : List Step → Snapshot → List Snapshot
  | [], m => [m]
  | step :: rest, m => m :: step.snapshots m ++ snapshots rest (m.after step)

mutual

lemma Step.map_session_snapshots : ∀ (step : Step) (m : Snapshot),
    (step.snapshots m).map Snapshot.session = step.inside m.session
  | .act action result?, m => by
    rw [Step.snapshots, Step.inside]
    rfl
  | .build construction result?, m => by
    rw [Step.snapshots, Step.inside]
    rfl
  | .buildWith construction subject? steps result?, m => by
    rw [Step.snapshots, Step.inside]
    cases construction.start m.session with
    | error fault => rfl
    | ok begun => exact Step.map_session_snapshotsUntilFault steps _
  | .within on subject? steps, m => by
    rw [Step.snapshots, Step.inside]
    cases m.session.lookup on with
    | error fault => rfl
    | ok e =>
      cases e with
      | object o =>
        cases o with
        | node n => exact Step.map_session_snapshotsUntilFault steps _
        | _ => rfl
      | _ => rfl

lemma Step.map_session_snapshotsUntilFault : ∀ (steps : List Step) (m : Snapshot),
    (Step.snapshotsUntilFault steps m).map Snapshot.session = Step.insideUntilFault steps m.session
  | [], m => by
    rw [Step.snapshotsUntilFault, Step.insideUntilFault]
    rfl
  | step :: rest, m => by
    rw [Step.snapshotsUntilFault, Step.insideUntilFault, List.map_append, List.map_cons,
      Step.map_session_snapshots step m]
    cases (step.run m.session).2.fault? with
    | some fault => rfl
    | none => rw [Step.map_session_snapshotsUntilFault rest (m.after step)]; rfl

end

lemma map_session_snapshots (steps : List Step) (m : Snapshot) :
    (snapshots steps m).map Snapshot.session = sessions steps m.session := by
  induction steps generalizing m with
  | nil => rfl
  | cons step rest ih =>
    rw [snapshots, sessions, List.map_append, List.map_cons, step.map_session_snapshots, ih]
    rfl

namespace Snapshot

def Before (m m' : Snapshot) : Prop := ∃ more, m'.log = m.log ++ more ∧ Receives m.store more m'.store

variable {m m' x y : Snapshot} {l r : List Snapshot}

lemma Before.refl (m : Snapshot) : m.Before m := ⟨[], by simp, .refl m.store⟩

lemma Before.trans (h : m.Before x) (h' : x.Before m') : m.Before m' := by
  obtain ⟨more, hlog, hreceives⟩ := h
  obtain ⟨rest, hlog', hreceives'⟩ := h'
  exact ⟨more ++ rest, by rw [hlog', hlog, List.append_assoc], hreceives.trans hreceives'⟩

structure Between (m : Snapshot) (l : List Snapshot) (m' : Snapshot) : Prop where
  ends : m.Before m'
  pairwise : l.Pairwise Before
  lower : ∀ x ∈ l, m.Before x
  upper : ∀ x ∈ l, x.Before m'

lemma Between.nil (h : m.Before m') : Between m [] m' := ⟨h, .nil, by simp, by simp⟩

lemma Between.cons (h : Between m l m') : Between m (m :: l) m' where
  ends := h.ends
  pairwise := List.pairwise_cons.mpr ⟨h.lower, h.pairwise⟩
  lower x hx := by
    rcases List.mem_cons.mp hx with rfl | hx
    · exact .refl x
    · exact h.lower x hx
  upper x hx := by
    rcases List.mem_cons.mp hx with rfl | hx
    · exact h.ends
    · exact h.upper x hx

lemma Between.append (h : Between m l x) (h' : Between x r m') : Between m (l ++ r) m' where
  ends := h.ends.trans h'.ends
  pairwise := List.pairwise_append.mpr
    ⟨h.pairwise, h'.pairwise, fun a ha b hb => (h.upper a ha).trans (h'.lower b hb)⟩
  lower a ha := by
    rcases List.mem_append.mp ha with ha | ha
    · exact h.lower a ha
    · exact h.ends.trans (h'.lower a ha)
  upper a ha := by
    rcases List.mem_append.mp ha with ha | ha
    · exact (h.upper a ha).trans h'.ends
    · exact h'.upper a ha

lemma Between.mono (hlower : x.Before m) (h : Between m l m') (hupper : m'.Before y) : Between x l y where
  ends := (hlower.trans h.ends).trans hupper
  pairwise := h.pairwise
  lower a ha := hlower.trans (h.lower a ha)
  upper a ha := (h.upper a ha).trans hupper

lemma before_after (hm : m.session.WellFormed) (step : Step) : m.Before (m.after step) :=
  ⟨_, rfl, step.receives_run m.session hm⟩

end Snapshot

-- The snapshots inside a step lie between the one before it and the one after it; by recursion, those of the
-- steps inside it do so among themselves.
mutual

lemma Step.between_snapshots : ∀ (step : Step) (m : Snapshot), m.session.WellFormed →
    Snapshot.Between m (step.snapshots m) (m.after step)
  | .act action result?, m, hm => by
    rw [Step.snapshots]
    exact .nil (Snapshot.before_after hm _)
  | .build construction result?, m, hm => by
    rw [Step.snapshots]
    exact .nil (Snapshot.before_after hm _)
  | .buildWith construction subject? steps result?, m, hm => by
    rw [Step.snapshots]
    cases hstart : construction.start m.session with
    | error fault => exact .nil (Snapshot.before_after hm _)
    | ok begun =>
      obtain ⟨t, p⟩ := begun
      have hinner := Step.between_snapshotsUntilFault steps
        ⟨t.bind subject? p.subject, m.log ++ construction.attachments m.session⟩
        (hm.start hstart subject?).1
      refine hinner.mono ⟨_, rfl, ?_⟩ ⟨_, ?_, Step.receives_end hm hstart subject? result? steps⟩
      · simpa only [Snapshot.store, Session.store_bind] using Construction.receives_start hstart
      · simp only [Snapshot.after, Snapshot.afterInner, Step.history, hstart, List.append_assoc]
  | .within on subject? steps, m, hm => by
    rw [Step.snapshots]
    split
    · next n hon =>
      have hinner := Step.between_snapshotsUntilFault steps ⟨m.session.bind subject? (.node n), m.log⟩
        (hm.bind subject? (hm.lookup hon))
      have hafter : m.after (.within on subject? steps) =
          Snapshot.afterInner ⟨m.session.bind subject? (.node n), m.log⟩ steps := by
        simp only [Snapshot.after, Snapshot.afterInner, Step.run, Step.history, hon]
        split <;> rfl
      have hbegun : m.Before ⟨m.session.bind subject? (.node n), m.log⟩ :=
        ⟨[], by simp, by simpa [Snapshot.store] using Receives.refl m.session.store⟩
      rw [hafter]
      exact hinner.mono hbegun (.refl _)
    · exact .nil (Snapshot.before_after hm _)

lemma Step.between_snapshotsUntilFault : ∀ (steps : List Step) (m : Snapshot), m.session.WellFormed →
    Snapshot.Between m (Step.snapshotsUntilFault steps m) (m.afterInner steps)
  | [], m, _ => by
    rw [Step.snapshotsUntilFault, Snapshot.afterInner, Step.runUntilFault, Step.historyUntilFault,
      List.append_nil]
    exact (Snapshot.Between.nil (.refl m)).cons
  | step :: rest, m, hm => by
    have hstep := Step.between_snapshots step m hm
    rw [Step.snapshotsUntilFault]
    cases hfault : (step.run m.session).2.fault? with
    | some fault =>
      have hend : m.afterInner (step :: rest) = m.after step := by
        simp [Snapshot.afterInner, Snapshot.after, Step.historyUntilFault, hfault,
          Step.runUntilFault_cons_of_fault rest hfault]
      rw [hend]
      exact (hstep.append (Snapshot.Between.nil (.refl _)).cons).cons
    | none =>
      have hend : m.afterInner (step :: rest) = (m.after step).afterInner rest := by
        simp [Snapshot.afterInner, Snapshot.after, Step.historyUntilFault, hfault,
          Step.runUntilFault_cons_of_sound rest hfault]
      rw [hend]
      exact (hstep.append (Step.between_snapshotsUntilFault rest (m.after step) (hm.run step))).cons

end

lemma exists_between_snapshots (steps : List Step) (m : Snapshot) (hm : m.session.WellFormed) :
    ∃ m', Snapshot.Between m (snapshots steps m) m' := by
  induction steps generalizing m with
  | nil => exact ⟨m, (Snapshot.Between.nil (.refl m)).cons⟩
  | cons step rest ih =>
    obtain ⟨m', h⟩ := ih (m.after step) (hm.run step)
    exact ⟨m', ((step.between_snapshots m hm).append h).cons⟩

lemma Snapshot.children_eq {steps : List Step} {m : Snapshot} (hm : m ∈ snapshots steps .start)
    (c : NodeId) : m.store.children c = (putIn m.log c .first).reverse ++ putIn m.log c .last := by
  obtain ⟨m', h⟩ := exists_between_snapshots steps .start Session.wellFormed_empty
  obtain ⟨more, hlog, hreceives⟩ := h.lower m hm
  have hnil : Snapshot.start.store.children c = [] := rfl
  obtain rfl : m.log = more := hlog
  rw [hreceives c, hnil, List.append_nil]

lemma Snapshot.reachable {steps : List Step} {m : Snapshot} (hm : m ∈ snapshots steps .start) :
    m.session.Reachable := by
  have h : m.session ∈ (snapshots steps .start).map Snapshot.session := List.mem_map_of_mem hm
  rw [map_session_snapshots] at h
  exact reachable_of_mem_sessions h

/-- At every moment of a script a container holds the nodes that have been put first into it, the latest first,
and then the nodes that have been put last, the earliest first. As time goes on the history only gets longer,
what a container holds stays together in it, and a parent stays. A construction that succeeds comes into the
history after the steps inside it, and one that fails does not. -/
theorem children_follow_history (steps : List Step) :
    (snapshots steps .start).map Snapshot.session = sessions steps {} ∧
    (∀ m ∈ snapshots steps .start, ∀ c,
      m.store.children c = (putIn m.log c .first).reverse ++ putIn m.log c .last ∧
      (m.store.children c).Nodup) ∧
    (snapshots steps .start).Pairwise (fun m m' => m.log <+: m'.log ∧
      (∀ c, m.store.children c <:+: m'.store.children c) ∧
      ∀ n c, m.store.parent? n = some c → m'.store.parent? n = some c) ∧
    ∀ s ∈ sessions steps {}, ∀ construction subject? inner result? t p,
      construction.start s = .ok (t, p) →
      let step := Step.buildWith construction subject? inner result?
      let begun := t.bind subject? p.subject
      let ran := Step.runUntilFault inner begun
      let earlier := construction.attachments s ++ Step.historyUntilFault inner begun
      ((step.run s).2.fault? = none →
        step.history s = earlier ++ p.attachment?.toList ∧
        ∀ a ∈ p.attachment?, (step.run s).1.store.children a.container =
          a.place.insert a.node (ran.1.store.children a.container)) ∧
      ((step.run s).2.fault? ≠ none → step.history s = earlier) := by
  refine ⟨map_session_snapshots steps .start, fun m hm c => ⟨Snapshot.children_eq hm c, ?_⟩, ?_, ?_⟩
  · exact (Snapshot.reachable hm).wellFormed.store.nodup_children c
  · obtain ⟨m', h⟩ := exists_between_snapshots steps .start Session.wellFormed_empty
    refine h.pairwise.imp_of_mem fun {m m'} hm hm' hbefore => ?_
    obtain ⟨more, hlog, hreceives⟩ := hbefore
    refine ⟨⟨more, hlog.symm⟩, hreceives.isInfix, fun n c hp => ?_⟩
    have hwell := (Snapshot.reachable hm).wellFormed.store
    have hwell' := (Snapshot.reachable hm').wellFormed.store
    rw [← hwell.mem_children_iff] at hp
    rw [← hwell'.mem_children_iff]
    exact (hreceives.isInfix c).subset hp
  · intro s hs construction subject? inner result? t p hstart step begun ran earlier
    have hwell := (reachable_of_mem_sessions hs).wellFormed
    have hhistory : step.history s = earlier ++ p.attachmentsAfter ran := by
      simp only [step, Step.history, hstart]
      rfl
    have hreceives := Step.receives_end hwell hstart subject? result? inner
    rcases Step.buildWith_cases hstart subject? result? inner with
      ⟨fault, hr, hlast⟩ | ⟨u, -, hr, hlast⟩
    · have hfault : (step.run s).2.fault? = some fault := by rw [hr]; rfl
      refine ⟨fun hsound => by simp [hfault] at hsound, fun _ => ?_⟩
      rw [hhistory, hlast, List.append_nil]
    · have hsound : (step.run s).2.fault? = none := by rw [hr]; rfl
      refine ⟨fun _ => ⟨by rw [hhistory, hlast], fun a ha => ?_⟩, fun hfault => (hfault hsound).elim⟩
      simp only [hlast] at hreceives
      rw [Option.mem_def.mp ha] at hreceives
      exact hreceives.children_of_singleton

def commentedFrame : List Step :=
  [.act (.make (.frame none)) (some "f"),
    .buildWith (.child "f" .itemize) none [.build (.child "f" (.comment "a")) none] none,
    .buildWith (.child "f" .center) none
      [.build (.child "f" (.comment "b")) none, .act (.fail "stop") none] none,
    .act (.make (.raw "x")) (some "x"), .build (.adopt "f" "x" .first) none]

theorem children_follow_history_of_commented_frame :
    (∃ m ∈ snapshots commentedFrame .start, m.session = (runAll commentedFrame {}).1 ∧
      m.log = [⟨0, 2, .last⟩, ⟨0, 1, .last⟩, ⟨0, 4, .last⟩, ⟨0, 5, .first⟩] ∧
      m.store.children 0 = [5, 2, 1, 4]) ∧
    ∃ s t p, s ∈ sessions commentedFrame {} ∧ (Construction.child "f" .itemize).start s = .ok (t, p) ∧
      let inner : List Step := [.build (.child "f" (.comment "a")) none]
      let step : Step := .buildWith (.child "f" .itemize) none inner none
      (step.run s).2.fault? = none ∧
      step.history s = (Construction.child "f" .itemize).attachments s ++ Step.historyUntilFault inner t ++
        p.attachment?.toList := by
  obtain ⟨-, hchildren, -, hcompleted⟩ := children_follow_history commentedFrame
  constructor
  · obtain ⟨m, hm, hsession, hlog⟩ : ∃ m, (snapshots commentedFrame .start)[10]? = some m ∧
        m.session = (runAll commentedFrame {}).1 ∧
        m.log = [⟨0, 2, .last⟩, ⟨0, 1, .last⟩, ⟨0, 4, .last⟩, ⟨0, 5, .first⟩] := ⟨_, rfl, rfl, rfl⟩
    have hm := List.mem_of_getElem? hm
    refine ⟨m, hm, hsession, hlog, ?_⟩
    rw [(hchildren m hm 0).1, hlog]
    rfl
  · obtain ⟨s, t, p, hs, hstart, hsound⟩ : ∃ s t p, (sessions commentedFrame {})[1]? = some s ∧
        (Construction.child "f" .itemize).start s = .ok (t, p) ∧
        ((Step.buildWith (.child "f" .itemize) none
          [.build (.child "f" (.comment "a")) none] none).run s).2.fault? = none :=
      ⟨_, _, _, rfl, rfl, by decide⟩
    have hs := List.mem_of_getElem? hs
    exact ⟨s, t, p, hs, hstart, hsound, ((hcompleted s hs _ none _ none t p hstart).1 hsound).1⟩

end SlideDeck.Script
