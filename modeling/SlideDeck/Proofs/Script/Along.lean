import SlideDeck.Proofs.Script.Course

/-! What every step that is run has in common, and what a run does if each of its steps does it. -/

namespace SlideDeck.Script

mutual

/-- Each step that is run has a property in the session where it is run, also among the steps inside a step. -/
def Step.Throughout (P : Step → Session → Prop) : Step → Session → Prop
  | .act action result?, s => P (.act action result?) s
  | .build construction result?, s => P (.build construction result?) s
  | .buildWith construction subject? steps result?, s =>
    P (.buildWith construction subject? steps result?) s ∧
      ∀ t p, construction.start s = .ok (t, p) → Step.AllThroughout P steps (t.bind subject? p.subject)
  | .within on subject? steps, s =>
    P (.within on subject? steps) s ∧
      ∀ n, s.lookup on = .ok (.node n) → Step.AllThroughout P steps (s.bind subject? (.node n))

def Step.AllThroughout (P : Step → Session → Prop) : List Step → Session → Prop
  | [], _ => True
  | step :: rest, s =>
    step.Throughout P s ∧ ((step.run s).2.fault? = none → Step.AllThroughout P rest (step.run s).1)

end

def Throughout (P : Step → Session → Prop) : List Step → Session → Prop
  | [], _ => True
  | step :: rest, s => step.Throughout P s ∧ Throughout P rest (step.run s).1

section

variable {P : Step → Session → Prop}

mutual

lemma Step.Throughout.of_forall (hP : ∀ step s, P step s) : ∀ (step : Step) (s : Session), step.Throughout P s
  | .act _ _, _ => hP _ _
  | .build _ _, _ => hP _ _
  | .buildWith _ _ steps _, _ => ⟨hP _ _, fun _ _ _ => Step.AllThroughout.of_forall hP steps _⟩
  | .within _ _ steps, _ => ⟨hP _ _, fun _ _ => Step.AllThroughout.of_forall hP steps _⟩

lemma Step.AllThroughout.of_forall (hP : ∀ step s, P step s) : ∀ (steps : List Step) (s : Session),
    Step.AllThroughout P steps s
  | [], _ => trivial
  | step :: rest, s => ⟨Step.Throughout.of_forall hP step s, fun _ => Step.AllThroughout.of_forall hP rest _⟩

end

lemma Throughout.of_forall (hP : ∀ step s, P step s) (steps : List Step) (s : Session) : Throughout P steps s := by
  induction steps generalizing s with
  | nil => trivial
  | cons step rest ih => exact ⟨Step.Throughout.of_forall hP step s, ih (step.run s).1⟩

end

def Step.bindings : Step → List String
  | .act _ result? | .build _ result? => result?.toList
  | .buildWith _ subject? _ result? => subject?.toList ++ result?.toList
  | .within _ subject? _ => subject?.toList

def Step.construction? : Step → Option Construction
  | .build construction _ | .buildWith construction _ _ _ => some construction
  | .act _ _ | .within _ _ _ => none

/-- Steps with a property lead from a session only to related ones. -/
structure Step.Yields (P : Step → Session → Prop) (R : Session → Session → Prop) : Prop where
  refl (s : Session) : R s s
  trans {s t u : Session} : R s t → R t u → R s u
  bind {s t : Session} {step : Step} {name? : Option String} : P step s → (∀ name ∈ name?, name ∈ step.bindings) →
    ∀ e, R t (t.bind name? e)
  act {s : Session} {action : Action} {result? : Option String} : P (.act action result?) s →
    R s (action.run s).session
  start {s t : Session} {step : Step} {construction : Construction} {p : Pending} :
    step.construction? = some construction → P step s → construction.start s = .ok (t, p) → R s t
  finish {s t u v : Session} {step : Step} {construction : Construction} {p : Pending} :
    step.construction? = some construction → P step s → construction.start s = .ok (t, p) → R t u →
    p.finish u = .ok v → R u v

section

variable {P : Step → Session → Prop} {R : Session → Session → Prop}

lemma Step.Yields.answer (h : Step.Yields P R) {s : Session} {step : Step} (hp : P step s) {effect : Effect}
    (hr : R s effect.session) {result? : Option String} (hresult : ∀ name ∈ result?, name ∈ step.bindings) :
    R s (s.answer result? effect).1 := by
  rw [Session.answer]
  cases effect.outcome with
  | error fault => exact hr
  | ok e => exact h.trans hr (h.bind hp hresult _)

mutual

theorem Step.Throughout.run (h : Step.Yields P R) : ∀ (step : Step) (s : Session), step.Throughout P s →
    R s (step.run s).1
  | .act action result?, s, hp => by
    rw [Step.run]
    exact h.answer hp (h.act hp) (by simp [Step.bindings])
  | .build construction result?, s, hp => by
    rw [Step.run]
    refine h.answer hp ?_ (by simp [Step.bindings])
    rw [Construction.run]
    cases hstart : construction.start s with
    | error fault => exact h.refl s
    | ok begun =>
      obtain ⟨t, p⟩ := begun
      have ht : R s t := h.start rfl hp hstart
      simp only
      cases hfinish : p.finish t with
      | error fault => exact ht
      | ok u => exact h.trans ht (h.finish rfl hp hstart (h.refl t) hfinish)
  | .buildWith construction subject? steps result?, s, hp => by
    rw [Step.run]
    cases hstart : construction.start s with
    | error fault => exact h.refl s
    | ok begun =>
      obtain ⟨t, p⟩ := begun
      have ht : R s t := h.start rfl hp.1 hstart
      have hu : R t (Step.runUntilFault steps (t.bind subject? p.subject)).1 :=
        h.trans (h.bind hp.1 (by simp +contextual [Step.bindings]) p.subject)
          (Step.AllThroughout.run h steps _ (hp.2 t p hstart))
      simp only
      split
      · exact h.trans ht hu
      · cases hfinish : p.finish (Step.runUntilFault steps (t.bind subject? p.subject)).1 with
        | error fault => exact h.trans ht hu
        | ok v =>
          have hv := h.finish rfl hp.1 hstart hu hfinish
          exact h.trans ht (h.trans hu (h.trans hv (h.bind hp.1 (by simp +contextual [Step.bindings]) _)))
  | .within on subject? steps, s, hp => by
    rw [Step.run]
    split
    · exact h.refl s
    · next n hon =>
      have hu := h.trans (h.bind hp.1 (by simp [Step.bindings]) (.node n))
        (Step.AllThroughout.run h steps _ (hp.2 n hon))
      simp only
      split <;> exact hu
    · exact h.refl s

theorem Step.AllThroughout.run (h : Step.Yields P R) : ∀ (steps : List Step) (s : Session),
    Step.AllThroughout P steps s → R s (Step.runUntilFault steps s).1
  | [], s, _ => h.refl s
  | step :: rest, s, hp => by
    have hstep := Step.Throughout.run h step s hp.1
    cases hfault : (step.run s).2.fault? with
    | some fault =>
      rw [Step.runUntilFault_cons_of_fault _ hfault]
      exact hstep
    | none =>
      rw [Step.runUntilFault_cons_of_sound _ hfault]
      exact h.trans hstep (Step.AllThroughout.run h rest _ (hp.2 hfault))

end

theorem Throughout.run (h : Step.Yields P R) (steps : List Step) {s : Session} (hp : Throughout P steps s) :
    R s (runAll steps s).1 := by
  induction steps generalizing s with
  | nil => exact h.refl s
  | cons step rest ih => exact h.trans (Step.Throughout.run h step s hp.1) (ih hp.2)

mutual

lemma Step.Throughout.inside (h : Step.Yields P R) : ∀ (step : Step) (s : Session), step.Throughout P s →
    ∀ u ∈ step.inside s, R s u
  | .act _ _, _, _, _, hu | .build _ _, _, _, _, hu => by simp [Step.inside] at hu
  | .buildWith construction subject? steps _, s, hp, u, hu => by
    rw [Step.inside] at hu
    cases hstart : construction.start s with
    | error fault => simp [hstart] at hu
    | ok begun =>
      rw [hstart] at hu
      have hsubject : R begun.1 (begun.1.bind subject? begun.2.subject) :=
        h.bind hp.1 (by simp +contextual [Step.bindings]) _
      exact h.trans (h.start rfl hp.1 hstart)
        (h.trans hsubject (Step.AllThroughout.inside h steps _ (hp.2 begun.1 begun.2 hstart) u hu))
  | .within on subject? steps, s, hp, u, hu => by
    rw [Step.inside] at hu
    split at hu
    · next n hon =>
      exact h.trans (h.bind hp.1 (by simp [Step.bindings]) (.node n))
        (Step.AllThroughout.inside h steps _ (hp.2 n hon) u hu)
    · simp at hu

lemma Step.AllThroughout.inside (h : Step.Yields P R) : ∀ (steps : List Step) (s : Session),
    Step.AllThroughout P steps s → ∀ u ∈ Step.insideUntilFault steps s, R s u
  | [], s, _, u, hu => by
    obtain rfl : u = s := by simpa [Step.insideUntilFault] using hu
    exact h.refl u
  | step :: rest, s, hp, u, hu => by
    have hstep := Step.Throughout.run h step s hp.1
    rw [Step.insideUntilFault, List.cons_append, List.mem_cons, List.mem_append] at hu
    rcases hu with rfl | hu | hu
    · exact h.refl u
    · exact Step.Throughout.inside h step s hp.1 u hu
    · split at hu
      · obtain rfl : u = (step.run s).1 := by simpa using hu
        exact hstep
      · next hsound => exact h.trans hstep (Step.AllThroughout.inside h rest _ (hp.2 hsound) u hu)

end

theorem Throughout.sessions (h : Step.Yields P R) (steps : List Step) {s : Session} (hp : Throughout P steps s) :
    ∀ u ∈ Script.sessions steps s, R s u := by
  induction steps generalizing s with
  | nil =>
    intro u hu
    obtain rfl : u = s := by simpa [Script.sessions] using hu
    exact h.refl u
  | cons step rest ih =>
    intro u hu
    rw [Script.sessions, List.cons_append, List.mem_cons, List.mem_append] at hu
    rcases hu with rfl | hu | hu
    · exact h.refl u
    · exact Step.Throughout.inside h step s hp.1 u hu
    · exact h.trans (Step.Throughout.run h step s hp.1) (ih hp.2 u hu)

section

variable {Q : Step → Session → Prop} {r : Session}

mutual

lemma Step.Throughout.narrow (h : Step.Yields Q R) (hPQ : ∀ step u, R r u → P step u → Q step u) :
    ∀ (step : Step) {s : Session}, R r s → step.Throughout P s → step.Throughout Q s
  | .act _ _, _, hs, hp | .build _ _, _, hs, hp => hPQ _ _ hs hp
  | .buildWith _ _ steps _, _, hs, hp =>
    have hq := hPQ _ _ hs hp.1
    ⟨hq, fun t p hstart => Step.AllThroughout.narrow h hPQ steps (h.trans hs (h.trans (h.start rfl hq hstart)
      (h.bind hq (by simp +contextual [Step.bindings]) p.subject))) (hp.2 t p hstart)⟩
  | .within _ _ steps, _, hs, hp =>
    have hq := hPQ _ _ hs hp.1
    ⟨hq, fun n hon => Step.AllThroughout.narrow h hPQ steps
      (h.trans hs (h.bind hq (by simp [Step.bindings]) (.node n))) (hp.2 n hon)⟩

lemma Step.AllThroughout.narrow (h : Step.Yields Q R) (hPQ : ∀ step u, R r u → P step u → Q step u) :
    ∀ (steps : List Step) {s : Session}, R r s → Step.AllThroughout P steps s → Step.AllThroughout Q steps s
  | [], _, _, _ => trivial
  | step :: rest, s, hs, hp =>
    have hq := Step.Throughout.narrow h hPQ step hs hp.1
    ⟨hq, fun hsound =>
      Step.AllThroughout.narrow h hPQ rest (h.trans hs (Step.Throughout.run h step s hq)) (hp.2 hsound)⟩

end

lemma Throughout.narrow (h : Step.Yields Q R) (hPQ : ∀ step u, R r u → P step u → Q step u) (steps : List Step)
    {s : Session} (hs : R r s) (hp : Throughout P steps s) : Throughout Q steps s := by
  induction steps generalizing s with
  | nil => trivial
  | cons step rest ih =>
    have hq := Step.Throughout.narrow h hPQ step hs hp.1
    exact ⟨hq, ih (h.trans hs (Step.Throughout.run h step s hq)) hp.2⟩

end

end

lemma Throughout.mono {P Q : Step → Session → Prop} (hPQ : ∀ step s, P step s → Q step s) (steps : List Step)
    {s : Session} (h : Throughout P steps s) : Throughout Q steps s :=
  have hall : Step.Yields Q fun _ _ => True :=
    ⟨fun _ => trivial, fun _ _ => trivial, fun _ _ _ => trivial, fun _ => trivial, fun _ _ _ => trivial,
      fun _ _ _ _ _ => trivial⟩
  Throughout.narrow (r := s) hall (fun step u _ => hPQ step u) steps trivial h

end SlideDeck.Script
