import SlideDeck.Proofs.Script.InPlace

/-! The log is a side channel: how it is set up has no bearing on what is built, and on answers only as far as they
show the log. -/

namespace SlideDeck.Script

open Log (Logger Level Record)

def Tie.ofLoggers (R : Logger → Logger → Prop) : Tie where
  toRelocation := .same
  veils _ _ _ := False
  parted _ := False
  retitled _ := False
  loggers := R
  left_of_veils := @left_of_unveiled
  right_of_veils := @right_of_unveiled _

lemma Session.reads_ofLoggers (R : Logger → Logger → Prop) (s : Session) (name : String) :
    s.Reads (.ofLoggers R) name := fun _ _ => ⟨fun _ => id, fun _ _ => id⟩

lemma Action.allowed_ofLoggers (R : Logger → Logger → Prop) (action : Action) (s : Session) :
    action.Allowed (.ofLoggers R) s where
  reads name _ := s.reads_ofLoggers R name
  keeps _ _ _ _ _ _ _ _ := id
  shows _ _ _ _ _ _ _ := id

lemma Step.allowed_ofLoggers (R : Logger → Logger → Prop) (step : Step) (s : Session) :
    step.Allowed (.ofLoggers R) s := by
  cases step with
  | act action result? => exact action.allowed_ofLoggers R s
  | _ => exact fun name _ => s.reads_ofLoggers R name

section

variable {s t : Session}

lemma Session.tied_still (s : Session) : s.Tied (.ofLoggers fun l l' => l = s.logger ∧ l' = s.logger) s :=
  .of_logger rfl ⟨rfl, rfl⟩

@[simp] lemma Session.logger_bind (s : Session) (name? : Option String) (e : Entity) :
    (s.bind name? e).logger = s.logger := by
  cases name? <;> rfl

lemma Action.logger_run {action : Action} (h : ∀ v d, action ≠ .setUpLog v d) (s : Session) :
    (action.run s).session.logger = s.logger :=
  (s.tied_still.run_action (action.allowed_ofLoggers _ s) h).session.logger.1

lemma Construction.logger_start {construction : Construction} {p : Pending} (h : construction.start s = .ok (t, p)) :
    t.logger = s.logger := by
  have hstart : Agree _ (construction.start s) (construction.start s) :=
    s.tied_still.start fun name _ => s.reads_ofLoggers _ name
  rw [h] at hstart
  cases hstart with
  | ok hresults => exact hresults.1.logger.1

lemma Pending.logger_finish {p : Pending} (h : p.finish s = .ok t) : t.logger = s.logger := by
  have hfinish := s.tied_still.finish p
  rw [h] at hfinish
  generalize Pending.finish _ s = y at hfinish
  cases hfinish with
  | ok hdone => exact hdone.logger.1

@[simp] lemma Session.logger_answer (s : Session) (result? : Option String) (effect : Effect) :
    (s.answer result? effect).1.logger = effect.session.logger := by
  rw [Session.answer]
  cases effect.outcome with
  | error fault => rfl
  | ok e => exact effect.session.logger_bind result? _

lemma Construction.logger_run (construction : Construction) (s : Session) :
    (construction.run s).session.logger = s.logger := by
  rw [Construction.run]
  cases hstart : construction.start s with
  | error fault => rfl
  | ok begun =>
    simp only
    cases hfinish : begun.2.finish begun.1 with
    | error fault => exact Construction.logger_start hstart
    | ok t => exact (Pending.logger_finish hfinish).trans (Construction.logger_start hstart)

end

mutual

def Step.setUps : Step → Session → List (Bool × Option String)
  | .act (.setUpLog verbose debug?) _, _ => [(verbose, debug?)]
  | .act _ _, _ | .build _ _, _ => []
  | .buildWith construction subject? steps _, s =>
    match construction.start s with
    | .error _ => []
    | .ok (s, pending) => Step.setUpsUntilFault steps (s.bind subject? pending.subject)
  | .within on subject? steps, s =>
    match s.lookup on with
    | .ok (.object (.node n)) => Step.setUpsUntilFault steps (s.bind subject? (.node n))
    | _ => []

def Step.setUpsUntilFault : List Step → Session → List (Bool × Option String)
  | [], _ => []
  | step :: rest, s =>
    step.setUps s ++
      match (step.run s).2.fault? with
      | some _ => []
      | none => Step.setUpsUntilFault rest (step.run s).1

end

def setUps : List Step → Session → List (Bool × Option String)
  | [], _ => []
  | step :: rest, s => step.setUps s ++ setUps rest (step.run s).1

def loggerAfter (l : Logger) (setups : List (Bool × Option String)) : Logger :=
  setups.foldl (fun l setup => l.setUp setup.1 setup.2) l

lemma loggerAfter_append (l : Logger) (xs ys : List (Bool × Option String)) :
    loggerAfter l (xs ++ ys) = loggerAfter (loggerAfter l xs) ys := List.foldl_append

lemma setUp_of_getLast? {setups : List (Bool × Option String)} {verbose : Bool} {debug? : Option String}
    (h : setups.getLast? = some (verbose, debug?)) (l : Logger) :
    ∃ before : Logger, loggerAfter l setups = before.setUp verbose debug? := by
  obtain ⟨init, rfl⟩ := List.getLast?_eq_some_iff.mp h
  exact ⟨loggerAfter l init, loggerAfter_append l init _⟩

mutual

theorem Step.logger_run : ∀ (step : Step) (s : Session), (step.run s).1.logger = loggerAfter s.logger (step.setUps s)
  | .act action result?, s => by
    rw [Step.run, s.logger_answer]
    by_cases hlog : ∃ v d, action = .setUpLog v d
    · obtain ⟨v, d, rfl⟩ := hlog
      rfl
    · have hno (v d) : action ≠ .setUpLog v d := fun heq => hlog ⟨v, d, heq⟩
      rw [Action.logger_run hno]
      cases action with
      | setUpLog v d => exact absurd rfl (hno v d)
      | _ => rfl
  | .build construction result?, s => by
    rw [Step.run, s.logger_answer, construction.logger_run]
    rfl
  | .buildWith construction subject? steps result?, s => by
    rw [Step.run, Step.setUps]
    cases hstart : construction.start s with
    | error fault => rfl
    | ok begun =>
      have hinner := Step.logger_runUntilFault steps (begun.1.bind subject? begun.2.subject)
      rw [Session.logger_bind, Construction.logger_start hstart] at hinner
      simp only
      split
      · exact hinner
      · cases hfinish : begun.2.finish (Step.runUntilFault steps (begun.1.bind subject? begun.2.subject)).1 with
        | error fault => exact hinner
        | ok t => exact (t.logger_bind result? _).trans ((Pending.logger_finish hfinish).trans hinner)
  | .within on subject? steps, s => by
    rw [Step.run, Step.setUps]
    split
    · next hon =>
      rw [hon]
      rfl
    · next n hon =>
      have hinner := Step.logger_runUntilFault steps (s.bind subject? (.node n))
      rw [Session.logger_bind] at hinner
      rw [hon]
      simp only
      split <;> exact hinner
    · next e he hon =>
      rw [hon]
      cases e with
      | object o =>
        cases o with
        | node n => exact absurd rfl (he n)
        | _ => rfl
      | _ => rfl

theorem Step.logger_runUntilFault : ∀ (steps : List Step) (s : Session),
    (Step.runUntilFault steps s).1.logger = loggerAfter s.logger (Step.setUpsUntilFault steps s)
  | [], s => rfl
  | step :: rest, s => by
    rw [Step.setUpsUntilFault, loggerAfter_append, ← Step.logger_run step s]
    cases hfault : (step.run s).2.fault? with
    | some fault =>
      rw [Step.runUntilFault_cons_of_fault _ hfault]
      rfl
    | none =>
      rw [Step.runUntilFault_cons_of_sound _ hfault]
      exact Step.logger_runUntilFault rest (step.run s).1

end

theorem logger_runAll (steps : List Step) (s : Session) :
    (runAll steps s).1.logger = loggerAfter s.logger (setUps steps s) := by
  induction steps generalizing s with
  | nil => rfl
  | cons step rest ih => rw [setUps, loggerAfter_append, ← step.logger_run s, runAll_cons, ih]

def Entity.IsLogAccount (e : Entity) : Prop := ∃ l, e = .value (accountLog l)

def Session.NamesLog (s : Session) (name : String) : Prop := ∃ e : Entity, s.lookup name = .ok e ∧ e.IsLogAccount

/-- A step neither compares nor prints an account of the log. -/
def Step.LeavesLogAside : Step → Session → Prop
  | .act (.look on .print) _, s => ¬ s.NamesLog on
  | .act (.look on (.equal other)) _, s => ¬ s.NamesLog on ∧ ¬ s.NamesLog other
  | _, _ => True

structure Session.SameButLog (s t : Session) : Prop where
  workspace : t.workspace = s.workspace
  marks : t.marks = s.marks
  names : List.Forall₂ (fun x y => y.1 = x.1 ∧ (y.2 = x.2 ∨ x.2.IsLogAccount ∧ y.2.IsLogAccount)) s.names t.names

def SetUpNothing (steps : List Step) : Prop := Step.AllSameButLog (fun _ _ => False) steps steps

/-- Two logs are what two levels let through of the same records. -/
def SameRecords (log log' : List Record) : Prop :=
  ∃ records level? level'?, log = Log.visible level? records ∧ log' = Log.visible level'? records

def Tie.besideLog (R : Logger → Logger → Prop) : Tie where
  toRelocation := .same
  veils _ e e' := e.IsLogAccount ∧ e'.IsLogAccount
  parted _ := False
  retitled _ := False
  loggers := R
  left_of_veils h o ho := by
    obtain ⟨⟨l, hl⟩, -⟩ := h
    cases hl.symm.trans ho
  right_of_veils h o ho := by
    obtain ⟨-, l, hl⟩ := h
    cases hl.symm.trans ho

section

variable {R : Logger → Logger → Prop}

lemma Step.allowed_besideLog {step : Step} {s : Session} (h : ∀ name ∈ step.names, ¬ s.NamesLog name) :
    step.Allowed (.besideLog R) s := by
  have hreads : ∀ name ∈ step.names, s.Reads (.besideLog R) name := fun name hname e he =>
    ⟨fun _ hveiled => h name hname ⟨e, he, hveiled.1⟩, fun _ _ => id⟩
  cases step with
  | act action result? => exact ⟨hreads, fun _ _ _ _ _ _ _ _ => id, fun _ _ _ _ _ _ _ => id⟩
  | _ => exact hreads

lemma Session.Tied.lookup_account {s t : Session} (h : s.Tied (.besideLog R) t) {name : String} {l : Logger}
    (hs : s.lookup name = .ok (.value (accountLog l))) : ∃ l', t.lookup name = .ok (.value (accountLog l')) := by
  obtain ⟨e', he', hentry⟩ := (h.rel_lookup name).exists_of_ok hs
  rcases hentry with rfl | ⟨-, l', rfl⟩
  · exact ⟨l, he'⟩
  · exact ⟨l', he'⟩

lemma Session.Tied.look_account {s t : Session} (h : s.Tied (.besideLog R) t) {l l' : Logger} {question : Look}
    (hprint : question ≠ .print) (hequal : ∀ other, question ≠ .equal other) :
    let sight := s.look (.value (accountLog l)) question
    let sight' := t.look (.value (accountLog l')) question
    Effect.Tied (.besideLog R) { session := s, records := sight.records, outcome := sight.outcome }
      { session := t, records := sight'.records, outcome := sight'.outcome } := by
  cases question with
  | print => exact absurd rfl hprint
  | equal other => exact absurd rfl (hequal other)
  | has label => exact ⟨h, rfl, .error _⟩
  | field name => exact ⟨h, rfl, .error _⟩
  | dump => exact ⟨h, rfl, .error _⟩
  | write step? => exact ⟨h, rfl, .error _⟩
  | count => exact ⟨h, rfl, .ok ⟨rfl, nofun⟩⟩
  | list => exact ⟨h, rfl, .ok ⟨rfl, nofun⟩⟩
  | describe => exact ⟨h, rfl, .ok ⟨rfl, nofun⟩⟩

lemma Session.Tied.run_account {s t : Session} (h : s.Tied (.besideLog R) t) {action : Action} {name : String}
    {l l' : Logger} (hname : name ∈ action.names) (hs : s.lookup name = .ok (.value (accountLog l)))
    (ht : t.lookup name = .ok (.value (accountLog l'))) (hlook : ∀ on question, action ≠ .look on question) :
    Effect.Tied (.besideLog R) (action.run s) (action.run t) := by
  have hfailed {fault : Fault} : Effect.Tied (.besideLog R) { session := s, outcome := .error fault }
      { session := t, outcome := .error fault } := ⟨h, rfl, .error fault⟩
  cases action with
  | look on question => exact absurd rfl (hlook on question)
  | makeDeck outlineTitle? source =>
    cases source with
    | shared shared =>
      obtain rfl := List.mem_singleton.mp hname
      simp only [Action.run, Session.makeDeck, Session.takeSettings, hs, ht]
      exact hfailed
    | _ => cases hname
  | change on c =>
    obtain rfl := List.mem_singleton.mp hname
    simp only [Action.run, hs, ht]
    cases c <;> exact hfailed
  | unknown on? word =>
    cases on? with
    | none => cases hname
    | some on =>
      obtain rfl := List.mem_singleton.mp hname
      simp only [Action.run, hs, ht]
      exact hfailed
  | assign on field value | assignSetting on field value | pushArgument on value =>
    obtain rfl := List.mem_singleton.mp hname
    simp only [Action.run, hs, ht]
    exact hfailed
  | _ => cases hname

lemma Session.Tied.start_account {s t : Session} (h : s.Tied (.besideLog R) t) {construction : Construction}
    {name : String} {l l' : Logger} (hname : name ∈ construction.names)
    (hs : s.lookup name = .ok (.value (accountLog l))) (ht : t.lookup name = .ok (.value (accountLog l'))) :
    ∃ fault, construction.start s = .error fault ∧ construction.start t = .error fault := by
  cases construction with
  | deck outlineTitle? source =>
    cases source with
    | shared shared =>
      obtain rfl := List.mem_singleton.mp hname
      simp only [Construction.start, Session.makeDeck, Session.takeSettings, hs, ht]
      exact ⟨_, rfl, rfl⟩
    | _ => cases hname
  | adopt on node place =>
    by_cases hon : s.NamesLog on
    · obtain ⟨_, hon, m, rfl⟩ := hon
      obtain ⟨m', hon'⟩ := h.lookup_account hon
      simp only [Construction.start, hon, hon']
      exact ⟨_, rfl, rfl⟩
    · have hname : name = node := by
        rcases List.mem_cons.mp hname with rfl | hname
        · exact absurd ⟨_, hs, l, rfl⟩ hon
        · exact List.mem_singleton.mp hname
      subst hname
      have hreads : s.Reads (.besideLog R) on := fun e he => ⟨fun _ hveiled => hon ⟨e, he, hveiled.1⟩, fun _ _ => id⟩
      simp only [Construction.start, h.lookup hreads, hs, ht]
      cases s.lookup on with
      | error fault => exact ⟨fault, rfl, rfl⟩
      | ok e =>
        simp only [Except.map, Bind.bind, Except.bind, h.containerFor]
        cases s.containerFor e _ with
        | error fault => exact ⟨fault, rfl, rfl⟩
        | ok container => exact ⟨_, rfl, rfl⟩
  | child on builder | head on =>
    obtain rfl := List.mem_singleton.mp hname
    simp only [Construction.start, hs, ht]
    exact ⟨_, rfl, rfl⟩

lemma Tie.supports_besideLog : (Tie.besideLog R).Supports Step.LeavesLogAside := by
  intro step s t h haside
  by_cases hread : ∀ name ∈ step.names, ¬ s.NamesLog name
  · exact Tie.supports_allowed _ step s t h (Step.allowed_besideLog hread)
  obtain ⟨name, hname, _, hs, l, rfl⟩ : ∃ name ∈ step.names, s.NamesLog name := by
    simpa only [not_forall, not_not, exists_prop] using hread
  obtain ⟨l', ht⟩ := h.lookup_account hs
  cases step with
  | act action result? =>
    intro _
    by_cases hlook : ∃ on question, action = .look on question
    · obtain ⟨on, question, rfl⟩ := hlook
      have hprint : question ≠ .print := by
        rintro rfl
        obtain rfl := List.mem_singleton.mp hname
        exact haside ⟨_, hs, l, rfl⟩
      have hequal (other : String) : question ≠ .equal other := by
        rintro rfl
        rcases List.mem_cons.mp hname with rfl | hname
        · exact haside.1 ⟨_, hs, l, rfl⟩
        · obtain rfl := List.mem_singleton.mp hname
          exact haside.2 ⟨_, hs, l, rfl⟩
      obtain rfl : name = on := by
        cases question with
        | equal other => exact absurd rfl (hequal other)
        | _ => exact List.mem_singleton.mp hname
      simp only [Action.run_look, hs, ht]
      exact h.look_account hprint hequal
    · exact h.run_account hname hs ht fun on question heq => hlook ⟨on, question, heq⟩
  | build construction result? | buildWith construction subject? steps result? =>
    obtain ⟨fault, hstart, hstart'⟩ := h.start_account hname hs ht
    rw [Step.Holds, hstart, hstart']
    exact .error fault
  | within on subject? steps =>
    obtain rfl := List.mem_singleton.mp hname
    rw [Step.Holds, hs, ht]
    exact .ok (.inr ⟨by simp [Entity.node], by simp [Entity.node]⟩)

lemma Session.Tied.sameButLog {s t : Session} (h : s.Tied (.besideLog R) t) : s.SameButLog t where
  workspace := h.workspace_eq rfl (fun _ => id) fun _ => id
  marks := h.marks_eq rfl
  names := h.names.imp fun x _ hxy => ⟨hxy.1, hxy.2.imp_left fun heq => heq.trans (Entity.relocate_same x.2)⟩

lemma Tie.admits_besideLog {P : Setups}
    (hP : ∀ setup setup' (l l' : Logger), P setup setup' → R l l' →
      R (l.setUp setup.1 setup.2) (l'.setUp setup'.1 setup'.2)) : (Tie.besideLog R).Admits P :=
  fun setup setup' l l' hsetup hl => ⟨hP setup setup' l l' hsetup hl, .inr fun _ => ⟨⟨_, rfl⟩, ⟨_, rfl⟩⟩⟩

end

/-- A log shows what a level lets through of another one. -/
def ShowsFrom (level : Level) (log log' : List Record) : Prop :=
  log = log'.filter fun r => level.rank ≤ r.level.rank

lemma visible_of_debug (level : Level) (records : List Record) :
    Log.visible (some level) records =
      (Log.visible (some .debug) records).filter fun r => level.rank ≤ r.level.rank := by
  simp [Log.visible, Level.rank]

/-- Steps that set up the log in different ways build the same and answer the same, as long as none of them compares
or prints an account of the log. After the log has been set up there is one handler, and the level is the last one asked
for. What is logged at a level is what is logged when everything is asked for, as far as the level lets it
through, in one step as in a whole run. -/
theorem logging_is_side_channel :
    (∀ (steps steps' : List Step) (s : Session), Step.AllSameButLog (fun _ _ => True) steps steps' →
      Throughout Step.LeavesLogAside steps s →
      Step.SameAnswers SameRecords steps (runAll steps s).2 (runAll steps' s).2 ∧
        (runAll steps s).1.SameButLog (runAll steps' s).1) ∧
    (∀ (steps : List Step) (s : Session) (verbose : Bool) (debug? : Option String),
      (setUps steps s).getLast? = some (verbose, debug?) →
      (runAll steps s).1.logger.handlers.length = 1 ∧
        (runAll steps s).1.logger.level? = some (Level.choose verbose debug?)) ∧
    (∀ (level : Level) (steps : List Step) (s : Session) (l : Logger), SetUpNothing steps →
      s.logger.level? = some level → l.level? = some .debug →
      Step.SameAnswers (ShowsFrom level) steps (runAll steps s).2 (runAll steps { s with logger := l }).2) ∧
    ∀ (level : Level) (steps steps' : List Step) (s : Session) (l : Logger),
      Step.AllSameButLog (fun setup setup' => Level.choose setup.1 setup.2 = level ∧
        Level.choose setup'.1 setup'.2 = .debug) steps steps' →
      Throughout Step.LeavesLogAside steps s → s.logger.level? = some level → l.level? = some .debug →
      Step.SameAnswers (ShowsFrom level) steps (runAll steps s).2 (runAll steps' { s with logger := l }).2 := by
  have hshows {T : Tie} {level : Level} {log log' : List Record} (hlogs : T.Logs log log')
      (hT : ∀ l l', T.loggers l l' → l.level? = some level ∧ l'.level? = some .debug) : ShowsFrom level log log' := by
    obtain ⟨records, l, l', hl, rfl, rfl⟩ := hlogs
    obtain ⟨hl, hl'⟩ := hT l l' hl
    rw [hl, hl']
    exact visible_of_debug level records
  refine ⟨fun steps steps' s hsame haside => ?_, fun steps s verbose debug? hlast => ?_,
    fun level steps s l hnothing hlevel hdebug => ?_, fun level steps steps' s l hsame haside hlevel hdebug => ?_⟩
  · let T := Tie.besideLog fun _ _ => True
    have hself : s.Tied T s := .of_logger rfl trivial
    obtain ⟨hend, hanswers⟩ := runAll_tandem (Tie.admits_besideLog fun _ _ _ _ _ _ => trivial)
      Tie.supports_besideLog steps steps' hself hsame haside
    refine ⟨hanswers.mono (fun log log' hlogs => ?_) steps, hend.sameButLog⟩
    obtain ⟨records, l, l', -, hlog, hlog'⟩ := hlogs
    exact ⟨records, _, _, hlog, hlog'⟩
  · obtain ⟨before, hbefore⟩ := setUp_of_getLast? hlast s.logger
    rw [logger_runAll, hbefore]
    exact ⟨rfl, rfl⟩
  · let T := Tie.ofLoggers fun l l' => l.level? = some level ∧ l'.level? = some .debug
    have hboth : s.Tied T { s with logger := l } := .of_logger rfl ⟨hlevel, hdebug⟩
    have hadmits : T.Admits fun _ _ => False := fun _ _ _ _ => False.elim
    obtain ⟨-, hanswers⟩ := runAll_tandem hadmits T.supports_allowed steps steps hboth hnothing
      (Throughout.of_forall (fun step s => step.allowed_ofLoggers _ s) steps s)
    exact hanswers.mono (fun log log' hlogs => hshows hlogs fun _ _ => id) steps
  · let T := Tie.besideLog fun l l' => l.level? = some level ∧ l'.level? = some .debug
    have hboth : s.Tied T { s with logger := l } := .of_logger rfl ⟨hlevel, hdebug⟩
    have hadmits : T.Admits fun setup setup' => Level.choose setup.1 setup.2 = level ∧
        Level.choose setup'.1 setup'.2 = .debug :=
      Tie.admits_besideLog fun _ _ _ _ hsetup _ => ⟨congrArg some hsetup.1, congrArg some hsetup.2⟩
    obtain ⟨-, hanswers⟩ := runAll_tandem hadmits Tie.supports_besideLog steps steps' hboth hsame haside
    exact hanswers.mono (fun log log' hlogs => hshows hlogs fun _ _ => id) steps

def Answer.log : Answer → List Record
  | .plain _ log => log
  | .nested _ _ => []

theorem logging_is_side_channel_of_frame :
    let script (setup : Bool × Option String) : List Step :=
      [.act (.setUpLog setup.1 setup.2) (some "log"), .act (.make (.frame none)) (some "f"),
        .build (.child "f" (.code "python" none)) none, .act (.look "f" (.write none)) none]
    let quiet := script (false, none)
    let loud := script (true, some "1")
    let warned : Session := { logger := ({} : Logger).setUp false none }
    let told : Session := { logger := ({} : Logger).setUp true (some "1") }
    (Step.SameAnswers SameRecords quiet (runAll quiet warned).2 (runAll loud warned).2 ∧
      (runAll quiet warned).1.SameButLog (runAll loud warned).1) ∧
    ((runAll quiet told).1.logger.handlers.length = 1 ∧ (runAll quiet told).1.logger.level? = some .warning) ∧
    Step.SameAnswers (ShowsFrom .warning) quiet.tail (runAll quiet.tail warned).2 (runAll quiet.tail told).2 ∧
    Step.SameAnswers (ShowsFrom .warning) quiet (runAll quiet warned).2 (runAll loud told).2 ∧
    (runAll quiet warned).2.map Answer.log = [[], [], [], []] ∧
      ((runAll loud told).2.map Answer.log)[3]? ≠ some [] := by
  intro script quiet loud warned told
  obtain ⟨hsame, hlast, hlevel, hruns⟩ := logging_is_side_channel
  have haside : Throughout Step.LeavesLogAside quiet warned := ⟨trivial, trivial, trivial, trivial, trivial⟩
  refine ⟨hsame quiet loud warned ?_ haside, hlast quiet told false none ?_,
    hlevel .warning quiet.tail warned told.logger ?_ rfl rfl,
    hruns .warning quiet loud warned told.logger ?_ haside rfl rfl,
    ?_, ?_⟩
  · exact ⟨_, _, rfl, ⟨(true, some "1"), rfl, trivial⟩, _, _, rfl, rfl, _, _, rfl, rfl, _, _, rfl, rfl, rfl⟩
  · decide +kernel
  · exact ⟨_, _, rfl, rfl, _, _, rfl, rfl, _, _, rfl, rfl, rfl⟩
  · exact ⟨_, _, rfl, ⟨(true, some "1"), rfl, rfl, rfl⟩, _, _, rfl, rfl, _, _, rfl, rfl, _, _, rfl, rfl, rfl⟩
  · decide +kernel
  · decide +kernel

def Answer.affirms (a : Answer) : Bool :=
  match a.outcome with
  | .ok (.atom (.bool value)) => value
  | _ => false

/-- Accounts of the log tell how it was set up, also where they are compared. -/
theorem log_accounts_differ :
    ¬ ∀ (steps steps' : List Step), Step.AllSameButLog (fun _ _ => True) steps steps' →
      Step.SameAnswers SameRecords steps (run steps) (run steps') := by
  intro h
  let script (verbose : Bool) : List Step :=
    [.act (.setUpLog false none) (some "a"), .act (.setUpLog verbose none) (some "b"),
      .act (.look "a" (.equal "b")) none]
  have hshown : (run (script false))[2]?.map Answer.affirms = some true ∧
      (run (script true))[2]?.map Answer.affirms = some false := by
    decide +kernel
  have hsame := h (script false) (script true)
    ⟨_, _, rfl, ⟨(false, none), rfl, trivial⟩, _, _, rfl, ⟨(true, none), rfl, trivial⟩, _, _, rfl, rfl, rfl⟩
  obtain ⟨hnil, -⟩ | ⟨a, after, a', after', ha, ha', -, hafter⟩ := hsame
  · simp [hnil] at hshown
  obtain ⟨rfl, -⟩ | ⟨b, rest, b', rest', rfl, rfl, -, hrest⟩ := hafter
  · simp [ha] at hshown
  obtain ⟨rfl, -⟩ | ⟨c, last, c', last', rfl, rfl, ⟨outcome, log, log', -, rfl, rfl⟩, -⟩ := hrest
  · simp [ha] at hshown
  rw [ha, ha'] at hshown
  have htrue : (Answer.plain outcome log).affirms = true := Option.some.inj hshown.1
  have hfalse : (Answer.plain outcome log).affirms = false := Option.some.inj hshown.2
  exact absurd (htrue.symm.trans hfalse) (by decide)

end SlideDeck.Script
