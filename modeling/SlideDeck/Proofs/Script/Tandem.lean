import SlideDeck.Proofs.Script.Along
import SlideDeck.Proofs.Script.Tied

/-! Runs in tied sessions: corresponding steps fail alike, show the same, and leave the sessions tied. -/

namespace SlideDeck.Script

/-- The names that a step looks up, without those that the steps inside it look up. -/
def Step.names : Step → List String
  | .act action _ => action.names
  | .build construction _ | .buildWith construction _ _ _ => construction.names
  | .within on _ _ => [on]

def Step.Allowed (T : Tie) : Step → Session → Prop
  | .act action _, s => action.Allowed T s
  | step, s => ∀ name ∈ step.names, s.Reads T name

def Step.Holds (T : Tie) : Step → Session → Session → Prop
  | .act action _, s, t => (∀ v d, action ≠ .setUpLog v d) → Effect.Tied T (action.run s) (action.run t)
  | .build construction _, s, t | .buildWith construction _ _ _, s, t =>
    Agree (Session.Tied.Results T (Pending.relocate T)) (construction.start s) (construction.start t)
  | .within on _ _, s, t =>
    Agree (fun e e' => e' = e.relocate T ∨ (∀ n, e ≠ .node n) ∧ ∀ n, e' ≠ .node n) (s.lookup on) (t.lookup on)

def Tie.Supports (T : Tie) (A : Step → Session → Prop) : Prop :=
  ∀ (step : Step) (s t : Session), s.Tied T t → A step s → step.Holds T s t

lemma Tie.supports_allowed (T : Tie) : T.Supports (Step.Allowed T) := by
  intro step s t h hallowed
  cases step with
  | act action result? => exact h.run_action hallowed
  | build construction result? => exact h.start hallowed
  | buildWith construction subject? steps result? => exact h.start hallowed
  | within on subject? steps =>
    rw [Step.Holds, h.lookup (hallowed on (by simp [Step.names]))]
    exact (Agree.of_map _ _).mono fun e e' _ heq => .inl heq

def Answer.Nest (q : List Answer → List Answer → Prop) (a a' : Answer) : Prop :=
  ∃ outcome inner inner', a = .nested outcome inner ∧ a' = .nested outcome inner' ∧ q inner inner'

lemma Answer.Nest.mono {q q' : List Answer → List Answer → Prop} (hq : ∀ as as', q as as' → q' as as')
    {a a' : Answer} (h : a.Nest q a') : a.Nest q' a' := by
  obtain ⟨outcome, inner, inner', ha, ha', hinner⟩ := h
  exact ⟨outcome, inner, inner', ha, ha', hq _ _ hinner⟩

lemma Effect.Tied.answer {T : Tie} {x y : Effect} (hxy : Effect.Tied T x y) (s t : Session) (result? : Option String) :
    (s.answer result? x).1.Tied T (t.answer result? y).1 ∧ ∃ outcome,
      (s.answer result? x).2 = .plain outcome (Log.visible s.logger.level? x.records) ∧
      (t.answer result? y).2 = .plain outcome (Log.visible t.logger.level? x.records) := by
  obtain ⟨hsession, hrecords, houtcome⟩ := hxy
  rw [Session.answer, Session.answer, hrecords]
  generalize x.outcome = o, y.outcome = o' at houtcome
  cases houtcome with
  | error fault => exact ⟨hsession, _, rfl, rfl⟩
  | ok he =>
    obtain ⟨rfl, hshows⟩ := he
    obtain ⟨hdone, hvalue⟩ := hsession.conclude result? hshows
    simp only [hvalue]
    exact ⟨hdone, _, rfl, rfl⟩

namespace Session.Tied

variable {T : Tie} {s t : Session} {q : List Answer → List Answer → Prop}

structure Runs (T : Tie) (q : List Answer → List Answer → Prop) (a b : Session × List Answer) : Prop where
  session : a.1.Tied T b.1
  answers : q a.2 b.2
  fault? : Answer.firstFault? b.2 = Answer.firstFault? a.2

lemma cases_of_agree {α : Type} {f : α → α} {x y : Except Fault (Session × α)} (h : Agree (Results T f) x y) :
    (∃ fault, x = .error fault ∧ y = .error fault) ∨
      ∃ u v a, x = .ok (u, a) ∧ y = .ok (v, f a) ∧ u.Tied T v := by
  cases h with
  | error fault => exact .inl ⟨fault, rfl, rfl⟩
  | @ok a b hab =>
    obtain ⟨hsession, hresult⟩ := hab
    exact .inr ⟨a.1, b.1, a.2, rfl, by rw [← hresult], hsession⟩

variable (h : s.Tied T t)

include h

lemma run_construction {c c' : Construction}
    (hstart : Agree (Results T (Pending.relocate T)) (c.start s) (c'.start t)) :
    Effect.Tied T (c.run s) (c'.run t) := by
  obtain ⟨fault, hbegun, hbegun'⟩ | ⟨u, v, p, hbegun, hbegun', hu⟩ := cases_of_agree hstart
  · rw [Construction.run, Construction.run, hbegun, hbegun']
    exact ⟨h, rfl, .error fault⟩
  · have hfinish := hu.finish p
    rw [Construction.run, Construction.run, hbegun, hbegun']
    simp only
    generalize p.finish u = x, (p.relocate T).finish v = y at hfinish
    cases hfinish with
    | ok hdone => exact ⟨hdone, rfl, .ok ⟨rfl, fun i hi => absurd hi (ne_settings_of_start hbegun i)⟩⟩
    | error fault => exact ⟨hu, rfl, .error fault⟩

lemma run_buildWith {c c' : Construction} {subject? result? : Option String} {steps steps' : List Step}
    (hstart : Agree (Results T (Pending.relocate T)) (c.start s) (c'.start t))
    (hinner : ∀ u v p, c.start s = .ok (u, p) → u.Tied T v →
      Runs T q (Step.runUntilFault steps (u.bind subject? p.subject))
        (Step.runUntilFault steps' (v.bind subject? (p.subject.relocate T)))) :
    let a := (Step.buildWith c subject? steps result?).run s
    let b := (Step.buildWith c' subject? steps' result?).run t
    a.1.Tied T b.1 ∧ ((∃ fault, a.2 = .plain (.error fault) [] ∧ b.2 = .plain (.error fault) []) ∨
      a.2.Nest q b.2) := by
  intro a b
  simp only [a, b]
  obtain ⟨fault, hbegun, hbegun'⟩ | ⟨u, v, p, hbegun, hbegun', hu⟩ := cases_of_agree hstart
  · rw [Step.run, Step.run, hbegun, hbegun']
    exact ⟨h, .inl ⟨fault, rfl, rfl⟩⟩
  · obtain ⟨hran, hanswers, hfault⟩ := hinner u v p hbegun hu
    rw [Step.run, Step.run, hbegun, hbegun']
    simp only [Pending.relocate] at hran hanswers hfault ⊢
    generalize Step.runUntilFault steps (u.bind subject? p.subject) = x,
      Step.runUntilFault steps' (v.bind subject? (p.subject.relocate T)) = y at hran hanswers hfault
    simp only [hfault]
    cases Answer.firstFault? x.2 with
    | some fault => exact ⟨hran, .inr ⟨_, _, _, rfl, rfl, hanswers⟩⟩
    | none =>
      have hfinish := hran.finish p
      simp only [Pending.relocate] at hfinish ⊢
      generalize p.finish x.1 = a, Pending.finish _ y.1 = b at hfinish
      cases hfinish with
      | error fault => exact ⟨hran, .inr ⟨_, _, _, rfl, rfl, hanswers⟩⟩
      | ok hdone =>
        obtain ⟨hend, hvalue⟩ := hdone.conclude result? (e := p.subject)
          fun i hi => absurd hi (ne_settings_of_start hbegun i)
        simp only [hvalue]
        exact ⟨hend, .inr ⟨_, _, _, rfl, rfl, hanswers⟩⟩

lemma run_within {on on' : String} {subject? : Option String} {steps steps' : List Step}
    (hon : Agree (fun e e' => e' = e.relocate T ∨ (∀ n, e ≠ .node n) ∧ ∀ n, e' ≠ .node n)
      (s.lookup on) (t.lookup on')) (hnil : q [] [])
    (hinner : ∀ n, s.lookup on = .ok (.node n) →
      Runs T q (Step.runUntilFault steps (s.bind subject? (.node n)))
        (Step.runUntilFault steps' (t.bind subject? (.node (T.node n))))) :
    let a := (Step.within on subject? steps).run s
    let b := (Step.within on' subject? steps').run t
    a.1.Tied T b.1 ∧ a.2.Nest q b.2 := by
  intro a b
  simp only [a, b]
  cases he : s.lookup on with
  | error fault =>
    have he' : t.lookup on' = .error fault := by
      rw [he] at hon
      exact hon.eq_of_error
    rw [Step.run, Step.run, he, he']
    exact ⟨h, _, _, _, rfl, rfl, hnil⟩
  | ok e =>
    obtain ⟨e', he', heq⟩ := hon.exists_of_ok he
    by_cases hnode : ∃ n, e = .node n
    · obtain ⟨n, rfl⟩ := hnode
      obtain ⟨hran, hanswers, hfault⟩ := hinner n he
      obtain rfl := heq.resolve_right fun hother => hother.1 n rfl
      rw [Step.run, Step.run, he, he']
      simp only [Entity.relocate, Object.relocate, Entity.node] at hran hanswers hfault ⊢
      generalize Step.runUntilFault steps (s.bind subject? (.object (.node n))) = x,
        Step.runUntilFault steps' (t.bind subject? (.object (.node (T.node n)))) = y at hran hanswers hfault
      simp only [hfault]
      cases Answer.firstFault? x.2 with
      | some fault => exact ⟨hran, _, _, _, rfl, rfl, hanswers⟩
      | none =>
        have hvalue : y.1.present (.object (.node (T.node n))) = x.1.present (.object (.node n)) :=
          hran.present (.node n) fun i heq => (by cases heq)
        simp only [hvalue]
        exact ⟨hran, _, _, _, rfl, rfl, hanswers⟩
    · have hno (n : NodeId) : e ≠ .node n := fun heq => hnode ⟨n, heq⟩
      have hno' (n : NodeId) : e' ≠ .node n := by
        rcases heq with rfl | hother
        · exact Entity.relocate_ne_node hno n
        · exact hother.2 n
      rw [Step.run_within_of_ne he hno, Step.run_within_of_ne he' hno']
      exact ⟨h, _, _, _, rfl, rfl, hnil⟩

end Session.Tied

abbrev Setups : Type := Bool × Option String → Bool × Option String → Prop

section

variable (P : Setups)

mutual

def Step.SameButLog : Step → Step → Prop
  | .act (.setUpLog verbose debug?) result?, step' =>
    ∃ setup, step' = .act (.setUpLog setup.1 setup.2) result? ∧ P (verbose, debug?) setup
  | .act action result?, step' => step' = .act action result?
  | .build construction result?, step' => step' = .build construction result?
  | .buildWith construction subject? steps result?, step' =>
    ∃ steps', step' = .buildWith construction subject? steps' result? ∧ Step.AllSameButLog steps steps'
  | .within on subject? steps, step' =>
    ∃ steps', step' = .within on subject? steps' ∧ Step.AllSameButLog steps steps'

def Step.AllSameButLog : List Step → List Step → Prop
  | [], steps' => steps' = []
  | step :: rest, steps' =>
    ∃ step' rest', steps' = step' :: rest' ∧ step.SameButLog step' ∧ Step.AllSameButLog rest rest'

end

end

mutual

lemma Step.SameButLog.refl {P : Setups} (hP : ∀ setup, P setup setup) : ∀ step : Step, step.SameButLog P step
  | .act action result? => by
    cases action with
    | setUpLog verbose debug? => exact ⟨(verbose, debug?), rfl, hP _⟩
    | _ => rfl
  | .build _ _ => rfl
  | .buildWith _ _ steps _ => ⟨steps, rfl, Step.AllSameButLog.refl hP steps⟩
  | .within _ _ steps => ⟨steps, rfl, Step.AllSameButLog.refl hP steps⟩

lemma Step.AllSameButLog.refl {P : Setups} (hP : ∀ setup, P setup setup) : ∀ steps : List Step,
    Step.AllSameButLog P steps steps
  | [] => rfl
  | step :: rest => ⟨step, rest, rfl, Step.SameButLog.refl hP step, Step.AllSameButLog.refl hP rest⟩

end

section

variable (Q : List Log.Record → List Log.Record → Prop)

mutual

/-- Answers to a step that show the same, but for setting up the log. Their logs are related. -/
def Step.SameAnswer : Step → Answer → Answer → Prop
  | .act (.setUpLog _ _) _, a, a' => a.fault? = none ∧ a'.fault? = none
  | .act _ _, a, a' | .build _ _, a, a' => ∃ outcome log log', Q log log' ∧
    a = .plain outcome log ∧ a' = .plain outcome log'
  | .buildWith _ _ steps _, a, a' => (∃ fault, a = .plain (.error fault) [] ∧ a' = .plain (.error fault) []) ∨
    a.Nest (Step.SameAnswers steps) a'
  | .within _ _ steps, a, a' => a.Nest (Step.SameAnswers steps) a'

def Step.SameAnswers : List Step → List Answer → List Answer → Prop
  | [], as, as' => as = [] ∧ as' = []
  | step :: rest, as, as' => (as = [] ∧ as' = []) ∨
    ∃ a after a' after', as = a :: after ∧ as' = a' :: after' ∧ step.SameAnswer a a' ∧
      Step.SameAnswers rest after after'

end

end

def Tie.Logs (T : Tie) (log log' : List Log.Record) : Prop :=
  ∃ records l l', T.loggers l l' ∧ log = Log.visible l.level? records ∧ log' = Log.visible l'.level? records

def Tie.Admits (T : Tie) (P : Setups) : Prop :=
  ∀ setup setup' l l', P setup setup' → T.loggers l l' →
    let after := l.setUp setup.1 setup.2
    let after' := l'.setUp setup'.1 setup'.2
    T.loggers after after' ∧ (accountLog after' = accountLog after ∨
      ∀ name, T.veils name (.value (accountLog after)) (.value (accountLog after')))

namespace Step

variable {Q Q' : List Log.Record → List Log.Record → Prop}

lemma SameAnswer.fault? {step : Step} {a a' : Answer} (h : step.SameAnswer Q a a') : a'.fault? = a.fault? := by
  cases step with
  | act action result? =>
    cases action with
    | setUpLog verbose debug? => rw [h.1, h.2]
    | _ =>
      obtain ⟨outcome, log, log', -, rfl, rfl⟩ := h
      rfl
  | build construction result? =>
    obtain ⟨outcome, log, log', -, rfl, rfl⟩ := h
    rfl
  | buildWith construction subject? steps result? =>
    rcases h with ⟨fault, rfl, rfl⟩ | ⟨outcome, inner, inner', rfl, rfl, -⟩ <;> rfl
  | within on subject? steps =>
    obtain ⟨outcome, inner, inner', rfl, rfl, -⟩ := h
    rfl

lemma SameAnswers.nil (steps : List Step) : SameAnswers Q steps [] [] := by
  cases steps with
  | nil => exact ⟨rfl, rfl⟩
  | cons step rest => exact .inl ⟨rfl, rfl⟩

lemma SameAnswers.firstFault? {steps : List Step} {as as' : List Answer} (h : SameAnswers Q steps as as') :
    Answer.firstFault? as' = Answer.firstFault? as := by
  induction steps generalizing as as' with
  | nil =>
    obtain ⟨rfl, rfl⟩ := h
    rfl
  | cons step rest ih =>
    rcases h with ⟨rfl, rfl⟩ | ⟨a, after, a', after', rfl, rfl, hhead, hrest⟩
    · rfl
    · have hrest' := ih hrest
      simp only [Answer.firstFault?] at hrest' ⊢
      rw [List.findSome?_cons, List.findSome?_cons, hhead.fault?, hrest']

mutual

lemma SameAnswer.mono (hQ : ∀ log log', Q log log' → Q' log log') : ∀ (step : Step) {a a' : Answer},
    step.SameAnswer Q a a' → step.SameAnswer Q' a a'
  | .act action _, a, a', h => by
    cases action with
    | setUpLog verbose debug? => exact h
    | _ =>
      obtain ⟨outcome, log, log', hlog, ha, ha'⟩ := h
      exact ⟨outcome, log, log', hQ _ _ hlog, ha, ha'⟩
  | .build _ _, a, a', h => by
    obtain ⟨outcome, log, log', hlog, ha, ha'⟩ := h
    exact ⟨outcome, log, log', hQ _ _ hlog, ha, ha'⟩
  | .buildWith _ _ steps _, a, a', h =>
    h.imp_right (Answer.Nest.mono fun _ _ => SameAnswers.mono hQ steps)
  | .within _ _ steps, a, a', h => Answer.Nest.mono (fun _ _ => SameAnswers.mono hQ steps) h

lemma SameAnswers.mono (hQ : ∀ log log', Q log log' → Q' log log') : ∀ (steps : List Step) {as as' : List Answer},
    SameAnswers Q steps as as' → SameAnswers Q' steps as as'
  | [], _, _, h => h
  | step :: rest, as, as', h => by
    refine h.imp_right ?_
    rintro ⟨a, after, a', after', has, has', hhead, hrest⟩
    exact ⟨a, after, a', after', has, has', SameAnswer.mono hQ step hhead, SameAnswers.mono hQ rest hrest⟩

end

end Step

section

variable {T : Tie} {P : Setups} {A : Step → Session → Prop}

lemma Session.Tied.run_setUpLog (hP : T.Admits P) {s t : Session} (h : s.Tied T t) {setup setup' : Bool × Option String}
    (hsetup : P setup setup') (result? : Option String) :
    let step := Step.act (.setUpLog setup.1 setup.2) result?
    let step' := Step.act (.setUpLog setup'.1 setup'.2) result?
    (step.run s).1.Tied T (step'.run t).1 ∧ step.SameAnswer T.Logs (step.run s).2 (step'.run t).2 := by
  obtain ⟨hloggers, haccounts⟩ := hP setup setup' s.logger t.logger hsetup h.logger
  have hset : Session.Tied T { s with logger := s.logger.setUp setup.1 setup.2 }
      { t with logger := t.logger.setUp setup'.1 setup'.2 } := { h with logger := hloggers }
  refine ⟨hset.bind result? fun name _ => ?_, rfl, rfl⟩
  rcases haccounts with heq | hveiled
  · left
    rw [heq]
    rfl
  · exact .inr (hveiled name)

mutual

theorem Step.run_tandem (hP : T.Admits P) (hA : T.Supports A) : ∀ (step step' : Step) {s t : Session},
    s.Tied T t → step.SameButLog P step' → step.Throughout A s →
    (step.run s).1.Tied T (step'.run t).1 ∧ step.SameAnswer T.Logs (step.run s).2 (step'.run t).2
  | .act action result?, step', s, t, h, hsame, hallowed => by
    by_cases hlog : ∃ v d, action = .setUpLog v d
    · obtain ⟨v, d, rfl⟩ := hlog
      obtain ⟨setup, rfl, hsetup⟩ := hsame
      exact h.run_setUpLog hP hsetup result?
    · have hno (v d) : action ≠ .setUpLog v d := fun heq => hlog ⟨v, d, heq⟩
      obtain rfl : step' = .act action result? := by
        cases action with
        | setUpLog v d => exact absurd rfl (hno v d)
        | _ => exact hsame
      obtain ⟨hend, outcome, ha, ha'⟩ := (hA _ s t h hallowed hno).answer s t result?
      refine ⟨hend, ?_⟩
      cases action with
      | setUpLog v d => exact absurd rfl (hno v d)
      | _ => exact ⟨outcome, _, _, ⟨_, _, _, h.logger, rfl, rfl⟩, ha, ha'⟩
  | .build construction result?, step', s, t, h, hsame, hallowed => by
    obtain rfl := hsame
    obtain ⟨hend, outcome, ha, ha'⟩ := (h.run_construction (hA _ s t h hallowed)).answer s t result?
    exact ⟨hend, outcome, _, _, ⟨_, _, _, h.logger, rfl, rfl⟩, ha, ha'⟩
  | .buildWith construction subject? steps result?, step', s, t, h, hsame, hallowed => by
    obtain ⟨steps', rfl, hsteps⟩ := hsame
    obtain ⟨hhere, hinner⟩ := hallowed
    refine h.run_buildWith (hA _ s t h hhere) fun u v p hstart hu => ?_
    obtain ⟨hran, hanswers⟩ := Step.runUntilFault_tandem hP hA steps steps' (hu.bind_relocate subject? p.subject) hsteps
      (hinner u p hstart)
    exact ⟨hran, hanswers, hanswers.firstFault?⟩
  | .within on subject? steps, step', s, t, h, hsame, hallowed => by
    obtain ⟨steps', rfl, hsteps⟩ := hsame
    obtain ⟨hhere, hinner⟩ := hallowed
    refine h.run_within (hA _ s t h hhere) (.nil steps) fun n hon => ?_
    obtain ⟨hran, hanswers⟩ := Step.runUntilFault_tandem hP hA steps steps' (h.bind_relocate subject? (.node n)) hsteps
      (hinner n hon)
    exact ⟨hran, hanswers, hanswers.firstFault?⟩

theorem Step.runUntilFault_tandem (hP : T.Admits P) (hA : T.Supports A) : ∀ (steps steps' : List Step) {s t : Session},
    s.Tied T t → Step.AllSameButLog P steps steps' → Step.AllThroughout A steps s →
    (Step.runUntilFault steps s).1.Tied T (Step.runUntilFault steps' t).1 ∧
      Step.SameAnswers T.Logs steps (Step.runUntilFault steps s).2 (Step.runUntilFault steps' t).2
  | [], steps', s, t, h, hsame, hallowed => by
    obtain rfl := hsame
    exact ⟨h, rfl, rfl⟩
  | step :: rest, steps', s, t, h, hsame, hallowed => by
    obtain ⟨step', rest', rfl, hhead, hrest⟩ := hsame
    obtain ⟨hend, hanswer⟩ := Step.run_tandem hP hA step step' h hhead hallowed.1
    cases hfault : (step.run s).2.fault? with
    | some fault =>
      rw [Step.runUntilFault_cons_of_fault _ hfault,
        Step.runUntilFault_cons_of_fault _ (hanswer.fault?.trans hfault)]
      exact ⟨hend, .inr ⟨_, _, _, _, rfl, rfl, hanswer, .nil rest⟩⟩
    | none =>
      rw [Step.runUntilFault_cons_of_sound _ hfault,
        Step.runUntilFault_cons_of_sound _ (hanswer.fault?.trans hfault)]
      obtain ⟨hran, hanswers⟩ := Step.runUntilFault_tandem hP hA rest rest' hend hrest (hallowed.2 hfault)
      exact ⟨hran, .inr ⟨_, _, _, _, rfl, rfl, hanswer, hanswers⟩⟩

end

theorem runAll_tandem (hP : T.Admits P) (hA : T.Supports A) (steps steps' : List Step) {s t : Session} (h : s.Tied T t)
    (hsame : Step.AllSameButLog P steps steps') (hallowed : Throughout A steps s) :
    (runAll steps s).1.Tied T (runAll steps' t).1 ∧
      Step.SameAnswers T.Logs steps (runAll steps s).2 (runAll steps' t).2 := by
  induction steps generalizing steps' s t with
  | nil =>
    obtain rfl := hsame
    exact ⟨h, rfl, rfl⟩
  | cons step rest ih =>
    obtain ⟨step', rest', rfl, hhead, hrest⟩ := hsame
    obtain ⟨hend, hanswer⟩ := Step.run_tandem hP hA step step' h hhead hallowed.1
    obtain ⟨hran, hanswers⟩ := ih rest' hend hrest hallowed.2
    exact ⟨hran, .inr ⟨_, _, _, _, rfl, rfl, hanswer, hanswers⟩⟩

end

section

variable {T : Tie} {A : Step → Session → Prop}

def Tie.SameLog (T : Tie) : Prop := ∀ l l', T.loggers l l' ↔ l' = l

lemma Tie.SameLog.admits (hT : T.SameLog) : T.Admits Eq := by
  rintro setup _ l l' rfl hl
  obtain rfl := (hT l l').mp hl
  exact ⟨(hT _ _).mpr rfl, .inl rfl⟩

mutual

theorem Step.run_level (hT : T.SameLog) (hA : T.Supports A) : ∀ (step : Step) {s t : Session},
    s.Tied T t → step.Throughout A s →
    (step.run s).1.Tied T (step.run t).1 ∧ (step.run t).2 = (step.run s).2
  | .act action result?, s, t, h, hallowed => by
    have hlogger : t.logger = s.logger := (hT _ _).mp h.logger
    by_cases hlog : ∃ v d, action = .setUpLog v d
    · obtain ⟨v, d, rfl⟩ := hlog
      have hanswer (u : Session) : ((Step.act (.setUpLog v d) result?).run u).2 =
          .plain (.ok (accountLog (u.logger.setUp v d))) (Log.visible u.logger.level? []) := rfl
      have hset := h.run_setUpLog hT.admits (Eq.refl (v, d)) result?
      exact ⟨hset.1, by rw [hanswer, hanswer, hlogger]⟩
    · obtain ⟨hend, outcome, ha, ha'⟩ :=
        (hA _ s t h hallowed fun v d heq => hlog ⟨v, d, heq⟩).answer s t result?
      exact ⟨hend, by rw [Step.run, Step.run, ha, ha', hlogger]⟩
  | .build construction result?, s, t, h, hallowed => by
    have hlogger : t.logger = s.logger := (hT _ _).mp h.logger
    obtain ⟨hend, outcome, ha, ha'⟩ := (h.run_construction (hA _ s t h hallowed)).answer s t result?
    exact ⟨hend, by rw [Step.run, Step.run, ha, ha', hlogger]⟩
  | .buildWith construction subject? steps result?, s, t, h, hallowed => by
    obtain ⟨hhere, hinner⟩ := hallowed
    obtain ⟨hend, hanswers⟩ :=
      h.run_buildWith (q := fun as as' => as' = as) (hA _ s t h hhere) fun u v x hstart hu => by
        obtain ⟨hran, hanswers⟩ :=
          Step.runUntilFault_level hT hA steps (hu.bind_relocate subject? x.subject) (hinner u x hstart)
        exact ⟨hran, hanswers, congrArg _ hanswers⟩
    refine ⟨hend, ?_⟩
    obtain ⟨fault, ha, ha'⟩ | ⟨outcome, inner, _, ha, ha', rfl⟩ := hanswers <;> rw [ha, ha']
  | .within on subject? steps, s, t, h, hallowed => by
    obtain ⟨hhere, hinner⟩ := hallowed
    obtain ⟨hend, outcome, inner, _, ha, ha', rfl⟩ :=
      h.run_within (q := fun as as' => as' = as) (hA _ s t h hhere) rfl fun n hon => by
        obtain ⟨hran, hanswers⟩ :=
          Step.runUntilFault_level hT hA steps (h.bind_relocate subject? (.node n)) (hinner n hon)
        exact ⟨hran, hanswers, congrArg _ hanswers⟩
    exact ⟨hend, by rw [ha, ha']⟩

theorem Step.runUntilFault_level (hT : T.SameLog) (hA : T.Supports A) : ∀ (steps : List Step) {s t : Session},
    s.Tied T t → Step.AllThroughout A steps s →
    (Step.runUntilFault steps s).1.Tied T (Step.runUntilFault steps t).1 ∧
      (Step.runUntilFault steps t).2 = (Step.runUntilFault steps s).2
  | [], s, t, h, hallowed => ⟨h, rfl⟩
  | step :: rest, s, t, h, hallowed => by
    obtain ⟨hend, hanswer⟩ := Step.run_level hT hA step h hallowed.1
    cases hfault : (step.run s).2.fault? with
    | some fault =>
      rw [Step.runUntilFault_cons_of_fault _ hfault, Step.runUntilFault_cons_of_fault _ (hanswer ▸ hfault), hanswer]
      exact ⟨hend, rfl⟩
    | none =>
      obtain ⟨hran, hanswers⟩ := Step.runUntilFault_level hT hA rest hend (hallowed.2 hfault)
      rw [Step.runUntilFault_cons_of_sound _ hfault, Step.runUntilFault_cons_of_sound _ (hanswer ▸ hfault), hanswer,
        hanswers]
      exact ⟨hran, rfl⟩

end

theorem runAll_level (hT : T.SameLog) (hA : T.Supports A) (steps : List Step) {s t : Session} (h : s.Tied T t)
    (hallowed : Throughout A steps s) :
    (runAll steps s).1.Tied T (runAll steps t).1 ∧ (runAll steps t).2 = (runAll steps s).2 := by
  induction steps generalizing s t with
  | nil => exact ⟨h, rfl⟩
  | cons step rest ih =>
    obtain ⟨hend, hanswer⟩ := Step.run_level hT hA step h hallowed.1
    obtain ⟨hran, hanswers⟩ := ih hend hallowed.2
    rw [runAll_cons, runAll_cons, hanswer, hanswers]
    exact ⟨hran, rfl⟩

end

end SlideDeck.Script
