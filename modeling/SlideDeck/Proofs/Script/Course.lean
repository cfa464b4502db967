import Mathlib.Logic.Relation
import SlideDeck.Script.Run

/-! The course of a script in single moves. A point of it is a session together with the constructions that
are open there, and running steps is to make moves. -/

namespace SlideDeck.Script

structure Attachment where
  container : NodeId
  node : NodeId
  place : Place

def Pending.attachment? (p : Pending) : Option Attachment :=
  match p.subject, p.target? with
  | .object (.node node), some (container, place) => some { container, node, place }
  | _, _ => none

structure Point where
  session : Session
  pending : List Pending

/-- The moves of a script, each with the attachment that it completes. A construction is abandoned where a
step on its subject fails, or where it cannot be completed. -/
inductive Move : Point → Option Attachment → Point → Prop
  | act (s : Session) (pending : List Pending) (action : Action) (result? : Option String) :
      Move ⟨s, pending⟩ none ⟨(s.answer result? (action.run s)).1, pending⟩
  | start {s t : Session} {p : Pending} (pending : List Pending) (construction : Construction)
      (subject? : Option String) (h : construction.start s = .ok (t, p)) :
      Move ⟨s, pending⟩ none ⟨t.bind subject? p.subject, p :: pending⟩
  | enter {s : Session} {on : String} {n : NodeId} (pending : List Pending)
      (subject? : Option String) (h : s.lookup on = .ok (.object (.node n))) :
      Move ⟨s, pending⟩ none ⟨s.bind subject? (.node n), pending⟩
  | abandon (s : Session) (p : Pending) (pending : List Pending) :
      Move ⟨s, p :: pending⟩ none ⟨s, pending⟩
  | complete {s t : Session} {p : Pending} (pending : List Pending) (result? : Option String)
      (h : p.finish s = .ok t) :
      Move ⟨s, p :: pending⟩ p.attachment? ⟨(t.conclude result? p.subject).1, pending⟩

abbrev Moves : Point → Point → Prop := Relation.ReflTransGen fun p q => ∃ a?, Move p a? q

def Point.Reached (p : Point) : Prop := Moves ⟨{}, []⟩ p

/-- The sessions that occur in scripts, between steps at any depth. -/
def Session.Reachable (s : Session) : Prop := ∃ pending, Point.Reached ⟨s, pending⟩

mutual

def Step.inside : Step → Session → List Session
  | .act _ _, _ | .build _ _, _ => []
  | .buildWith construction subject? steps _, s =>
    match construction.start s with
    | .error _ => []
    | .ok (s, pending) => Step.insideUntilFault steps (s.bind subject? pending.subject)
  | .within on subject? steps, s =>
    match s.lookup on with
    | .ok (.object (.node n)) => Step.insideUntilFault steps (s.bind subject? (.node n))
    | _ => []

def Step.insideUntilFault : List Step → Session → List Session
  | [], s => [s]
  | step :: rest, s =>
    s :: step.inside s ++
      match (step.run s).2.fault? with
      | some _ => [(step.run s).1]
      | none => Step.insideUntilFault rest (step.run s).1

end

def sessions : List Step → Session → List Session
  | [], s => [s]
  | step :: rest, s => s :: step.inside s ++ sessions rest (step.run s).1

lemma Move.moves {p q : Point} {a? : Option Attachment} (h : Move p a? q) : Moves p q :=
  .single ⟨a?, h⟩

lemma Construction.run_moves (construction : Construction) (result? : Option String) (s : Session)
    (pending : List Pending) :
    Moves ⟨s, pending⟩ ⟨(s.answer result? (construction.run s)).1, pending⟩ := by
  rw [Construction.run]
  cases hstart : construction.start s with
  | error fault => exact .refl
  | ok begun =>
    have h₁ := (Move.start pending construction none hstart).moves
    simp only
    cases hfinish : begun.2.finish begun.1 with
    | error fault =>
      exact h₁.trans (Move.abandon begun.1 begun.2 pending).moves
    | ok t =>
      exact h₁.trans (Move.complete pending result? hfinish).moves

mutual

theorem Step.run_moves : ∀ (step : Step) (s : Session) (pending : List Pending),
    Moves ⟨s, pending⟩ ⟨(step.run s).1, pending⟩
  | .act action result?, s, pending => by
    rw [Step.run]
    exact (Move.act s pending action result?).moves
  | .build construction result?, s, pending => by
    rw [Step.run]
    exact construction.run_moves result? s pending
  | .buildWith construction subject? steps result?, s, pending => by
    rw [Step.run]
    cases hstart : construction.start s with
    | error fault => exact .refl
    | ok begun =>
      have h₁ := (Move.start pending construction subject? hstart).moves
      have h₂ := Step.runUntilFault_moves steps (begun.1.bind subject? begun.2.subject)
        (begun.2 :: pending)
      have h := h₁.trans h₂
      simp only
      split
      · exact h.trans (Move.abandon _ begun.2 pending).moves
      · cases hfinish : begun.2.finish
            (Step.runUntilFault steps (begun.1.bind subject? begun.2.subject)).1 with
        | error fault => exact h.trans (Move.abandon _ begun.2 pending).moves
        | ok t => exact h.trans (Move.complete pending result? hfinish).moves
  | .within on subject? steps, s, pending => by
    rw [Step.run]
    split
    · exact .refl
    · next n hon =>
      have h₁ := (Move.enter pending subject? hon).moves
      have h₂ := Step.runUntilFault_moves steps (s.bind subject? (.node n)) pending
      simp only
      split <;> exact h₁.trans h₂
    · exact .refl

theorem Step.runUntilFault_moves : ∀ (steps : List Step) (s : Session) (pending : List Pending),
    Moves ⟨s, pending⟩ ⟨(Step.runUntilFault steps s).1, pending⟩
  | [], s, pending => by
    rw [Step.runUntilFault]
  | step :: rest, s, pending => by
    have h₁ := Step.run_moves step s pending
    rw [Step.runUntilFault]
    simp only
    split
    · exact h₁
    · exact h₁.trans (Step.runUntilFault_moves rest (step.run s).1 pending)

end

mutual

theorem Step.moves_of_mem_inside : ∀ (step : Step) (s : Session) (pending : List Pending)
    {t : Session}, t ∈ step.inside s → ∃ held, Moves ⟨s, pending⟩ ⟨t, held⟩
  | .act action result?, s, pending, t, ht => by simp [Step.inside] at ht
  | .build construction result?, s, pending, t, ht => by simp [Step.inside] at ht
  | .buildWith construction subject? steps result?, s, pending, t, ht => by
    rw [Step.inside] at ht
    cases hstart : construction.start s with
    | error fault => simp [hstart] at ht
    | ok begun =>
      rw [hstart] at ht
      obtain ⟨held, h⟩ := Step.moves_of_mem_insideUntilFault steps _ (begun.2 :: pending) ht
      exact ⟨held, (Move.start pending construction subject? hstart).moves.trans h⟩
  | .within on subject? steps, s, pending, t, ht => by
    rw [Step.inside] at ht
    split at ht
    · next n hon =>
      obtain ⟨held, h⟩ := Step.moves_of_mem_insideUntilFault steps _ pending ht
      exact ⟨held, (Move.enter pending subject? hon).moves.trans h⟩
    · simp at ht

theorem Step.moves_of_mem_insideUntilFault : ∀ (steps : List Step) (s : Session)
    (pending : List Pending) {t : Session},
    t ∈ Step.insideUntilFault steps s → ∃ held, Moves ⟨s, pending⟩ ⟨t, held⟩
  | [], s, pending, t, ht => by
    obtain rfl : t = s := by simpa [Step.insideUntilFault] using ht
    exact ⟨pending, .refl⟩
  | step :: rest, s, pending, t, ht => by
    have hstep := Step.run_moves step s pending
    rw [Step.insideUntilFault, List.cons_append, List.mem_cons, List.mem_append] at ht
    rcases ht with rfl | ht | ht
    · exact ⟨pending, .refl⟩
    · exact Step.moves_of_mem_inside step s pending ht
    · split at ht
      · obtain rfl : t = (step.run s).1 := by simpa using ht
        exact ⟨pending, hstep⟩
      · obtain ⟨held, h⟩ := Step.moves_of_mem_insideUntilFault rest (step.run s).1 pending ht
        exact ⟨held, hstep.trans h⟩

end

lemma moves_of_mem_sessions {steps : List Step} {s t : Session} (pending : List Pending)
    (ht : t ∈ sessions steps s) : ∃ held, Moves ⟨s, pending⟩ ⟨t, held⟩ := by
  induction steps generalizing s with
  | nil =>
    obtain rfl : t = s := by simpa [sessions] using ht
    exact ⟨pending, .refl⟩
  | cons step rest ih =>
    rw [sessions, List.cons_append, List.mem_cons, List.mem_append] at ht
    rcases ht with rfl | ht | ht
    · exact ⟨pending, .refl⟩
    · exact step.moves_of_mem_inside s pending ht
    · obtain ⟨held, h⟩ := ih ht
      exact ⟨held, (step.run_moves s pending).trans h⟩

theorem reachable_of_mem_sessions {steps : List Step} {s : Session} (h : s ∈ sessions steps {}) :
    s.Reachable := moves_of_mem_sessions [] h

lemma runAll_mem_sessions (steps : List Step) (s : Session) :
    (runAll steps s).1 ∈ sessions steps s := by
  induction steps generalizing s with
  | nil => simp [runAll, sessions]
  | cons step rest ih =>
    rw [sessions, List.cons_append, List.mem_cons, List.mem_append]
    exact .inr (.inr (ih (step.run s).1))

theorem reachable_runAll (steps : List Step) : (runAll steps {}).1.Reachable :=
  reachable_of_mem_sessions (runAll_mem_sessions steps {})

lemma Step.run_within_of_ne {on : String} {subject? : Option String} {steps : List Step} {s : Session} {e : Entity}
    (he : s.lookup on = .ok e) (hno : ∀ n, e ≠ .node n) :
    (Step.within on subject? steps).run s = (s, .nested (.error .unsuitable) []) := by
  rw [Step.run, he]
  cases e with
  | object o =>
    cases o with
    | node n => exact absurd rfl (hno n)
    | _ => rfl
  | _ => rfl

lemma Step.runUntilFault_cons_of_sound {step : Step} {s : Session} (rest : List Step)
    (h : (step.run s).2.fault? = none) :
    runUntilFault (step :: rest) s = ((runUntilFault rest (step.run s).1).1,
      (step.run s).2 :: (runUntilFault rest (step.run s).1).2) := by
  rw [runUntilFault]
  simp only [h]

lemma Step.runUntilFault_cons_of_fault {step : Step} {s : Session} {fault : Fault} (rest : List Step)
    (h : (step.run s).2.fault? = some fault) :
    runUntilFault (step :: rest) s = ((step.run s).1, [(step.run s).2]) := by
  rw [runUntilFault]
  simp only [h]

lemma Step.exists_runUntilFault_cons (step : Step) (rest : List Step) (s : Session) :
    ∃ answers, (runUntilFault (step :: rest) s).2 = (step.run s).2 :: answers := by
  cases h : (step.run s).2.fault? with
  | some fault => exact ⟨[], by rw [runUntilFault_cons_of_fault _ h]⟩
  | none => exact ⟨_, by rw [runUntilFault_cons_of_sound _ h]⟩

lemma runAll_cons (step : Step) (rest : List Step) (s : Session) :
    runAll (step :: rest) s =
      ((runAll rest (step.run s).1).1, (step.run s).2 :: (runAll rest (step.run s).1).2) := rfl

lemma Answer.firstFault?_singleton (a : Answer) : firstFault? [a] = a.fault? := by
  rw [firstFault?, List.findSome?_singleton]

lemma Step.runUntilFault_singleton (step : Step) (s : Session) :
    runUntilFault [step] s = ((step.run s).1, [(step.run s).2]) := by
  cases hfault : (step.run s).2.fault? with
  | some fault => rw [runUntilFault_cons_of_fault _ hfault]
  | none =>
    rw [runUntilFault_cons_of_sound _ hfault]
    rfl

lemma Step.runUntilFault_append (steps rest : List Step) (s : Session) :
    runUntilFault (steps ++ rest) s =
      match Answer.firstFault? (runUntilFault steps s).2 with
      | some _ => runUntilFault steps s
      | none => ((runUntilFault rest (runUntilFault steps s).1).1,
          (runUntilFault steps s).2 ++ (runUntilFault rest (runUntilFault steps s).1).2) := by
  induction steps generalizing s with
  | nil => rfl
  | cons step steps ih =>
    rw [List.cons_append]
    cases hfault : (step.run s).2.fault? with
    | some fault =>
      rw [runUntilFault_cons_of_fault _ hfault, runUntilFault_cons_of_fault _ hfault]
      simp [Answer.firstFault?, hfault]
    | none =>
      rw [runUntilFault_cons_of_sound _ hfault, runUntilFault_cons_of_sound _ hfault, ih]
      simp only [Answer.firstFault?, List.findSome?_cons, hfault]
      cases List.findSome? Answer.fault? (runUntilFault steps (step.run s).1).2 <;> rfl

lemma runAll_append (steps rest : List Step) (s : Session) :
    runAll (steps ++ rest) s =
      ((runAll rest (runAll steps s).1).1, (runAll steps s).2 ++ (runAll rest (runAll steps s).1).2) := by
  induction steps generalizing s with
  | nil => rfl
  | cons step steps ih => rw [List.cons_append, runAll_cons, ih, runAll_cons, List.cons_append]

section

variable {s t : Session}

lemma Session.Reachable.of_moves (h : s.Reachable)
    (hmoves : ∀ pending, ∃ held, Moves ⟨s, pending⟩ ⟨t, held⟩) : t.Reachable := by
  obtain ⟨pending, hs⟩ := h
  obtain ⟨held, hmoves⟩ := hmoves pending
  exact ⟨held, hs.trans hmoves⟩

lemma Session.Reachable.run (h : s.Reachable) (step : Step) : (step.run s).1.Reachable :=
  h.of_moves fun pending => ⟨pending, step.run_moves s pending⟩

lemma Session.Reachable.of_mem_sessions (h : s.Reachable) {steps : List Step} (ht : t ∈ sessions steps s) : t.Reachable :=
  h.of_moves fun pending => moves_of_mem_sessions pending ht

lemma Session.Reachable.runAll (h : s.Reachable) (steps : List Step) : (runAll steps s).1.Reachable :=
  h.of_mem_sessions (runAll_mem_sessions steps s)

lemma Session.Reachable.start (h : s.Reachable) {construction : Construction} {x : Pending}
    (hstart : construction.start s = .ok (t, x)) (subject? : Option String) : (t.bind subject? x.subject).Reachable :=
  h.of_moves fun pending => ⟨x :: pending, (Move.start pending construction subject? hstart).moves⟩

lemma Session.Reachable.enter (h : s.Reachable) {on : String} {n : NodeId} (hon : s.lookup on = .ok (.node n))
    (subject? : Option String) : (s.bind subject? (.node n)).Reachable :=
  h.of_moves fun pending => ⟨pending, (Move.enter pending subject? hon).moves⟩

end

end SlideDeck.Script
