import SlideDeck.Proofs.Script.Course
import SlideDeck.Proofs.Script.Looking

/-! Questions that are put into a script, also among the steps inside another one, and the runs of the script
with and without them. -/

namespace SlideDeck.Script

/-- A place in a script: before its step `i`, after the last step, or a place among the steps inside step `i`. -/
inductive Spot where
  | before (i : Nat)
  | inside (i : Nat) (spot : Spot)
  deriving Repr, DecidableEq

def Step.mapInner (f : List Step → List Step) : Step → Step
  | .act action result? => .act action result?
  | .build construction result? => .build construction result?
  | .buildWith construction subject? steps result? => .buildWith construction subject? (f steps) result?
  | .within on subject? steps => .within on subject? (f steps)

def Answer.mapInner (f : List Answer → List Answer) : Answer → Answer
  | .plain outcome log => .plain outcome log
  | .nested outcome inner => .nested outcome (f inner)

def Answer.inner : Answer → List Answer
  | .nested _ inner => inner
  | .plain _ _ => []

namespace Spot

def insert (step : Step) : Spot → List Step → List Step
  | before i, steps => steps.insertIdx i step
  | inside i spot, steps => steps.modify i (Step.mapInner (spot.insert step))

def erase : Spot → List Answer → List Answer
  | before i, answers => answers.eraseIdx i
  | inside i spot, answers => answers.modify i (Answer.mapInner spot.erase)

def answer? : Spot → List Answer → Option Answer
  | before i, answers => answers[i]?
  | inside i spot, answers => answers[i]?.bind fun answer => spot.answer? answer.inner

def IsInner : Spot → Prop
  | before _ => False
  | inside _ _ => True

end Spot

structure Probe where
  spot : Spot
  on : String
  question : Look

namespace Probe

def step (p : Probe) : Step := .act (.look p.on p.question) none

def insertAll : List Probe → List Step → List Step
  | [], steps => steps
  | p :: rest, steps => insertAll rest (p.spot.insert p.step steps)

def eraseAll : List Probe → List Answer → List Answer
  | [], answers => answers
  | p :: rest, answers => p.spot.erase (eraseAll rest answers)

end Probe

/-- The step at a place was not run, or it did not fail. -/
def Spot.Passes (spot : Spot) (answers : List Answer) : Prop :=
  ∀ answer ∈ spot.answer? answers, answer.fault? = none

def Probe.AllPass : List Probe → List Step → Session → Prop
  | [], _, _ => True
  | p :: rest, steps, s =>
    let asked := p.spot.insert p.step steps
    (p.spot.IsInner → p.spot.Passes (runAll asked s).2) ∧ AllPass rest asked s

structure Spot.Unseen (spot : Spot) (asked plain : Session × List Answer) : Prop where
  session : asked.1 = plain.1
  answers : spot.erase asked.2 = plain.2

lemma Probe.run_session (p : Probe) (s : Session) : (p.step.run s).1 = s := by
  rw [step, Step.run, Action.run_look]
  cases s.lookup p.on with
  | error fault => rfl
  | ok e =>
    simp only [Session.answer]
    cases (s.look e p.question).outcome <;> rfl

lemma Spot.erase_nil (spot : Spot) : spot.erase [] = [] := by
  cases spot <;> simp [erase]

lemma Answer.fault?_mapInner (f : List Answer → List Answer) (a : Answer) :
    (a.mapInner f).fault? = a.fault? := by
  cases a <;> rfl

lemma Answer.firstFault?_modify (f : List Answer → List Answer) (answers : List Answer) (i : Nat) :
    Answer.firstFault? (answers.modify i (Answer.mapInner f)) = Answer.firstFault? answers := by
  induction answers generalizing i with
  | nil => simp
  | cons a rest ih =>
    cases i with
    | zero =>
      simp only [Answer.firstFault?, List.modify_zero_cons, List.findSome?_cons, Answer.fault?_mapInner]
    | succ i =>
      simp only [Answer.firstFault?, List.modify_succ_cons, List.findSome?_cons] at ih ⊢
      rw [ih i]

lemma Answer.firstFault?_eraseIdx {answers : List Answer} {i : Nat}
    (h : ∀ answer, answers[i]? = some answer → answer.fault? = none) :
    Answer.firstFault? (answers.eraseIdx i) = Answer.firstFault? answers := by
  induction answers generalizing i with
  | nil => rfl
  | cons a rest ih =>
    cases i with
    | zero => simp [Answer.firstFault?, h a rfl]
    | succ i =>
      simp only [Answer.firstFault?, List.eraseIdx_cons_succ, List.findSome?_cons] at ih ⊢
      rw [ih fun answer hanswer => h answer (by simpa using hanswer)]

lemma Spot.Passes.firstFault? {spot : Spot} {answers : List Answer} (h : spot.Passes answers) :
    Answer.firstFault? (spot.erase answers) = Answer.firstFault? answers := by
  cases spot with
  | before i => exact Answer.firstFault?_eraseIdx h
  | inside i spot => exact Answer.firstFault?_modify _ _ _

lemma Session.answer_mapInner (s : Session) (result? : Option String) (effect : Effect)
    (f : List Answer → List Answer) :
    (s.answer result? effect).2.mapInner f = (s.answer result? effect).2 := by
  rw [Session.answer]
  cases effect.outcome <;> rfl

section

variable {spot : Spot} {probe : Step}

def Spot.Conceals (spot : Spot) (probe : Step) : Prop :=
  ∀ steps s, spot.Passes (Step.runUntilFault (spot.insert probe steps) s).2 →
    spot.Unseen (Step.runUntilFault (spot.insert probe steps) s) (Step.runUntilFault steps s)

lemma Spot.Conceals.run_buildWith (h : spot.Conceals probe) {construction : Construction}
    {subject? result? : Option String} {steps : List Step} {s : Session}
    (hpasses : spot.Passes ((Step.buildWith construction subject? (spot.insert probe steps) result?).run s).2.inner) :
    ((Step.buildWith construction subject? (spot.insert probe steps) result?).run s).1 =
        ((Step.buildWith construction subject? steps result?).run s).1 ∧
      ((Step.buildWith construction subject? (spot.insert probe steps) result?).run s).2.mapInner spot.erase =
        ((Step.buildWith construction subject? steps result?).run s).2 := by
  simp only [Step.run] at hpasses ⊢
  cases hstart : construction.start s with
  | error fault => exact ⟨rfl, rfl⟩
  | ok begun =>
    simp only [hstart] at hpasses ⊢
    have hran := h steps (begun.1.bind subject? begun.2.subject)
    generalize Step.runUntilFault (spot.insert probe steps) _ = asked at hran hpasses ⊢
    generalize Step.runUntilFault steps _ = plain at hran ⊢
    have hinner : spot.Passes asked.2 := by
      revert hpasses
      split
      · exact id
      · cases begun.2.finish asked.1 <;> exact id
    obtain ⟨hsession, hanswers⟩ := hran hinner
    rw [← hsession, ← hanswers, hinner.firstFault?]
    cases Answer.firstFault? asked.2 with
    | some fault => exact ⟨rfl, rfl⟩
    | none =>
      simp only
      cases begun.2.finish asked.1 <;> exact ⟨rfl, rfl⟩

lemma Spot.Conceals.run_within (h : spot.Conceals probe) {on : String} {subject? : Option String} {steps : List Step}
    {s : Session} (hpasses : spot.Passes ((Step.within on subject? (spot.insert probe steps)).run s).2.inner) :
    ((Step.within on subject? (spot.insert probe steps)).run s).1 = ((Step.within on subject? steps).run s).1 ∧
      ((Step.within on subject? (spot.insert probe steps)).run s).2.mapInner spot.erase =
        ((Step.within on subject? steps).run s).2 := by
  cases hon : s.lookup on with
  | error fault => simp [Step.run, hon, Answer.mapInner, spot.erase_nil]
  | ok e =>
    by_cases hnode : ∃ n, e = .node n
    · obtain ⟨n, rfl⟩ := hnode
      simp only [Step.run, hon, Entity.node] at hpasses ⊢
      have hran := h steps (s.bind subject? (.node n))
      simp only [Entity.node] at hran
      generalize Step.runUntilFault (spot.insert probe steps) _ = asked at hran hpasses ⊢
      generalize Step.runUntilFault steps _ = plain at hran ⊢
      have hinner : spot.Passes asked.2 := by
        revert hpasses
        split <;> exact id
      obtain ⟨hsession, hanswers⟩ := hran hinner
      rw [← hsession, ← hanswers, hinner.firstFault?]
      cases Answer.firstFault? asked.2 <;> exact ⟨rfl, rfl⟩
    · have hno (n : NodeId) : e ≠ .node n := fun heq => hnode ⟨n, heq⟩
      rw [Step.run_within_of_ne hon hno, Step.run_within_of_ne hon hno]
      exact ⟨rfl, by simp [Answer.mapInner, spot.erase_nil]⟩

lemma Spot.Conceals.run_mapInner (h : spot.Conceals probe) (step : Step) (s : Session)
    (hpasses : spot.Passes ((step.mapInner (spot.insert probe)).run s).2.inner) :
    ((step.mapInner (spot.insert probe)).run s).1 = (step.run s).1 ∧
      ((step.mapInner (spot.insert probe)).run s).2.mapInner spot.erase = (step.run s).2 := by
  cases step with
  | act action result? =>
    rw [Step.mapInner, Step.run]
    exact ⟨rfl, Session.answer_mapInner _ _ _ _⟩
  | build construction result? =>
    rw [Step.mapInner, Step.run]
    exact ⟨rfl, Session.answer_mapInner _ _ _ _⟩
  | buildWith construction subject? steps result? => exact h.run_buildWith hpasses
  | within on subject? steps => exact h.run_within hpasses

end

namespace Spot

def next : Spot → Spot
  | before i => before (i + 1)
  | inside i spot => inside (i + 1) spot

variable {spot : Spot} {probe step : Step} {rest : List Step} {s : Session}

lemma insert_next (spot : Spot) (probe step : Step) (rest : List Step) :
    spot.next.insert probe (step :: rest) = step :: spot.insert probe rest := by
  cases spot <;> simp [next, insert]

lemma erase_next (spot : Spot) (answer : Answer) (rest : List Answer) :
    spot.next.erase (answer :: rest) = answer :: spot.erase rest := by
  cases spot <;> simp [next, erase]

lemma passes_next {answer : Answer} {rest : List Answer} :
    spot.next.Passes (answer :: rest) ↔ spot.Passes rest := by
  cases spot <;> simp [next, Passes, answer?]

lemma isInner_next : spot.next.IsInner ↔ spot.IsInner := by
  cases spot <;> rfl

lemma runUntilFault_next
    (h : ∀ s, spot.Passes (Step.runUntilFault (spot.insert probe rest) s).2 →
      spot.Unseen (Step.runUntilFault (spot.insert probe rest) s) (Step.runUntilFault rest s))
    (hpasses : spot.next.Passes (Step.runUntilFault (spot.next.insert probe (step :: rest)) s).2) :
    spot.next.Unseen (Step.runUntilFault (spot.next.insert probe (step :: rest)) s)
      (Step.runUntilFault (step :: rest) s) := by
  rw [insert_next] at hpasses ⊢
  cases hfault : (step.run s).2.fault? with
  | some fault =>
    rw [Step.runUntilFault_cons_of_fault _ hfault, Step.runUntilFault_cons_of_fault _ hfault]
    exact ⟨rfl, by rw [erase_next, erase_nil]⟩
  | none =>
    rw [Step.runUntilFault_cons_of_sound _ hfault] at hpasses ⊢
    rw [Step.runUntilFault_cons_of_sound _ hfault]
    obtain ⟨hsession, hanswers⟩ := h (step.run s).1 (passes_next.mp hpasses)
    exact ⟨hsession, by rw [erase_next, hanswers]⟩

lemma runAll_next (h : ∀ s, (spot.IsInner → spot.Passes (runAll (spot.insert probe rest) s).2) →
      spot.Unseen (runAll (spot.insert probe rest) s) (runAll rest s))
    (hpasses : spot.next.IsInner → spot.next.Passes (runAll (spot.next.insert probe (step :: rest)) s).2) :
    spot.next.Unseen (runAll (spot.next.insert probe (step :: rest)) s) (runAll (step :: rest) s) := by
  rw [insert_next] at hpasses ⊢
  obtain ⟨hsession, hanswers⟩ := h (step.run s).1 fun hinner =>
    passes_next.mp (hpasses (isInner_next.mpr hinner))
  exact ⟨hsession, by rw [runAll, erase_next, hanswers, runAll]⟩

theorem unseen_runUntilFault (hprobe : ∀ s, (probe.run s).1 = s) (spot : Spot) :
    ∀ (steps : List Step) (s : Session),
      spot.Passes (Step.runUntilFault (spot.insert probe steps) s).2 →
      spot.Unseen (Step.runUntilFault (spot.insert probe steps) s) (Step.runUntilFault steps s) := by
  induction spot with
  | before i =>
    induction i with
    | zero =>
      intro steps s hpasses
      rw [insert, List.insertIdx_zero] at hpasses ⊢
      obtain ⟨answers, hanswers⟩ := Step.exists_runUntilFault_cons probe steps s
      have hsound : (probe.run s).2.fault? = none := hpasses _ (by rw [hanswers]; rfl)
      rw [Step.runUntilFault_cons_of_sound _ hsound, hprobe]
      exact ⟨rfl, rfl⟩
    | succ i ih =>
      rintro (_ | ⟨step, rest⟩) s hpasses
      · exact ⟨rfl, (before (i + 1)).erase_nil⟩
      · exact runUntilFault_next (ih rest) hpasses
  | inside i spot ihspot =>
    induction i with
    | zero =>
      rintro (_ | ⟨step, rest⟩) s hpasses
      · exact ⟨rfl, (inside 0 spot).erase_nil⟩
      · rw [insert, List.modify_zero_cons] at hpasses ⊢
        obtain ⟨answers, hanswers⟩ := Step.exists_runUntilFault_cons
          (step.mapInner (spot.insert probe)) rest s
        have hpassed : spot.Passes ((step.mapInner (spot.insert probe)).run s).2.inner :=
          fun answer hanswer => hpasses answer (by rw [hanswers]; exact hanswer)
        obtain ⟨hsession, hanswer⟩ := Spot.Conceals.run_mapInner ihspot step s hpassed
        have hfault : ((step.mapInner (spot.insert probe)).run s).2.fault? = (step.run s).2.fault? := by
          rw [← hanswer, Answer.fault?_mapInner]
        cases hstep : (step.run s).2.fault? with
        | some fault =>
          rw [Step.runUntilFault_cons_of_fault _ (hfault.trans hstep),
            Step.runUntilFault_cons_of_fault _ hstep]
          exact ⟨hsession, congrArg (fun answer => [answer]) hanswer⟩
        | none =>
          rw [Step.runUntilFault_cons_of_sound _ (hfault.trans hstep),
            Step.runUntilFault_cons_of_sound _ hstep, hsession]
          exact ⟨rfl, by rw [erase, List.modify_zero_cons, hanswer]⟩
    | succ i ih =>
      rintro (_ | ⟨step, rest⟩) s hpasses
      · exact ⟨rfl, (inside (i + 1) spot).erase_nil⟩
      · exact runUntilFault_next (ih rest) hpasses

theorem unseen_runAll (hprobe : ∀ s, (probe.run s).1 = s) (spot : Spot) :
    ∀ (steps : List Step) (s : Session),
      (spot.IsInner → spot.Passes (runAll (spot.insert probe steps) s).2) →
      spot.Unseen (runAll (spot.insert probe steps) s) (runAll steps s) := by
  have hinner := unseen_runUntilFault hprobe
  cases spot with
  | before i =>
    induction i with
    | zero =>
      intro steps s _
      rw [insert, List.insertIdx_zero, runAll_cons, hprobe]
      exact ⟨rfl, rfl⟩
    | succ i ih =>
      rintro (_ | ⟨step, rest⟩) s hpasses
      · exact ⟨rfl, (before (i + 1)).erase_nil⟩
      · exact runAll_next (ih rest) hpasses
  | inside i spot =>
    induction i with
    | zero =>
      rintro (_ | ⟨step, rest⟩) s hpasses
      · exact ⟨rfl, (inside 0 spot).erase_nil⟩
      · obtain ⟨hsession, hanswer⟩ := Spot.Conceals.run_mapInner (hinner spot) step s (hpasses trivial)
        rw [insert, List.modify_zero_cons, runAll_cons, hsession, runAll_cons]
        exact ⟨rfl, by rw [erase, List.modify_zero_cons, hanswer]⟩
    | succ i ih =>
      rintro (_ | ⟨step, rest⟩) s hpasses
      · exact ⟨rfl, (inside (i + 1) spot).erase_nil⟩
      · exact runAll_next (ih rest) hpasses

end Spot

/-- Questions that are put into a script, any number of them and at any places, leave its state and the answers to
its own steps as they are, where those that are put among the steps inside another step do not fail there. -/
theorem questions_change_nothing (probes : List Probe) (steps : List Step) (s : Session)
    (hpass : Probe.AllPass probes steps s) :
    (runAll (Probe.insertAll probes steps) s).1 = (runAll steps s).1 ∧
      Probe.eraseAll probes (runAll (Probe.insertAll probes steps) s).2 = (runAll steps s).2 := by
  induction probes generalizing steps with
  | nil => exact ⟨rfl, rfl⟩
  | cons p rest ih =>
    obtain ⟨hpasses, hrest⟩ := hpass
    obtain ⟨hsession, hanswers⟩ := ih _ hrest
    have hunseen := Spot.unseen_runAll p.run_session p.spot steps s hpasses
    refine ⟨hsession.trans hunseen.session, ?_⟩
    rw [Probe.eraseAll, Probe.insertAll, hanswers, hunseen.answers]

theorem questions_change_nothing_of_frame :
    let script : List Step := [.act (.make (.frame none)) (some "f"),
      .build (.child "f" (.code "python" none)) none,
      .within "f" none [.build (.child "f" (.appendText "a" none)) none]]
    let write (spot : Spot) : Probe := ⟨spot, "f", .write none⟩
    let probes := [write (.before 2), write (.inside 3 (.before 0)), write (.inside 3 (.before 2)),
      write (.before 4)]
    let asked := runAll (Probe.insertAll probes script) {}
    asked.1 = (runAll script {}).1 ∧ Probe.eraseAll probes asked.2 = (runAll script {}).2 ∧
      asked.2.length = 5 ∧ (asked.1.store.node 0).content.arguments? = some {} := by
  intro script write probes asked
  have hpass : Probe.AllPass probes script {} := by
    refine ⟨nofun, fun _ => ?_, fun _ => ?_, nofun, trivial⟩
    · unfold Spot.Passes
      decide +kernel
    · unfold Spot.Passes
      decide +kernel
  obtain ⟨hsession, hanswers⟩ := questions_change_nothing probes script {} hpass
  exact ⟨hsession, hanswers, by decide +kernel, by decide +kernel⟩

end SlideDeck.Script
