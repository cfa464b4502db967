import SlideDeck.Proofs.Script.Course
import SlideDeck.Proofs.Script.Effects

/-! Single ownership along every script: each move keeps the store well formed, whatever constructions are
open, so that parents and child lists agree in every session that occurs. -/

namespace SlideDeck.Script

structure Point.WellFormed (p : Point) : Prop where
  session : p.session.WellFormed
  pending : ∀ x ∈ p.pending, x.Within p.session.store

structure Attachment.Fits (a : Attachment) (s : Store) : Prop where
  container : s.Container a.container
  lt_size : a.node < s.size
  free : s.parent? a.node = none

def Attachment.apply (a : Attachment) (s : Store) : Store := s.link a.container a.node a.place

namespace Session

@[simp] lemma store_bind (s : Session) (name? : Option String) (e : Entity) :
    (s.bind name? e).store = s.store := by
  cases name? <;> rfl

@[simp] lemma store_conclude (s : Session) (result? : Option String) (e : Entity) :
    (s.conclude result? e).1.store = s.store := store_bind s result? _

@[simp] lemma store_answer (s : Session) (result? : Option String) (effect : Effect) :
    (s.answer result? effect).1.store = effect.session.store := by
  rw [answer]
  cases effect.outcome with
  | ok e => exact store_conclude _ _ _
  | error fault => rfl

lemma mem_bindName {name : String} {e : Entity} {names : List (String × Entity)}
    {entry : String × Entity} (h : entry ∈ bindName name e names) :
    entry = (name, e) ∨ entry ∈ names := by
  induction names with
  | nil => exact .inl (by simpa [bindName] using h)
  | cons first rest ih =>
    simp only [bindName] at h
    split at h
    · rcases List.mem_cons.mp h with rfl | h
      · exact .inl rfl
      · exact .inr (List.mem_cons_of_mem _ h)
    · rcases List.mem_cons.mp h with rfl | h
      · exact .inr List.mem_cons_self
      · exact (ih h).imp_right (List.mem_cons_of_mem _)

lemma WellFormed.bind {s : Session} (hs : s.WellFormed) (name? : Option String) {e : Entity}
    (he : e.Within s.store) : (s.bind name? e).WellFormed := by
  cases name? with
  | none => exact hs
  | some name =>
    refine ⟨hs.store, fun entry hentry => ?_, hs.decks⟩
    rcases mem_bindName hentry with rfl | hentry
    · exact he
    · exact hs.names entry hentry

lemma WellFormed.conclude {s : Session} (hs : s.WellFormed) (result? : Option String) {e : Entity}
    (he : e.Within s.store) : (s.conclude result? e).1.WellFormed := by
  refine hs.bind result? ?_
  cases e with
  | value v => cases v <;> trivial
  | _ => exact he

lemma WellFormed.answer {s : Session} {effect : Effect} (hs : s.WellFormed)
    (result? : Option String) (h : Effect.Follows s effect) :
    (s.answer result? effect).1.WellFormed := by
  have ht := h.session.wellFormed hs
  rw [Session.answer]
  cases houtcome : effect.outcome with
  | ok e => exact ht.conclude result? (h.outcome e houtcome)
  | error fault => exact ht

lemma wellFormed_empty : ({} : Session).WellFormed where
  store := Store.wellFormed_empty
  names := by simp
  decks := by simp

end Session

lemma Pending.finish_eq {p : Pending} {s t : Session} (h : p.finish s = .ok t) :
    match p.attachment? with
    | none => t = s
    | some a => s.store.parent? a.node = none ∧ t = s.withStore (a.apply s.store) := by
  rw [Pending.finish] at h
  split at h
  · next n c place hsubject htarget =>
    obtain ⟨u, hfree, h⟩ := bind_eq_ok_iff.mp h
    cases h
    simp only [Pending.attachment?, hsubject, htarget]
    refine ⟨?_, rfl⟩
    rw [Session.checkFree, Store.owned?] at hfree
    cases hp : s.store.parent? n with
    | none => rfl
    | some c => simp [hp] at hfree
  · next hno =>
    cases h
    have hnone : p.attachment? = none := by
      rw [Pending.attachment?]
      split
      · next hsubject htarget => exact (hno _ _ _ hsubject htarget).elim
      · rfl
    rw [hnone]

lemma Attachment.fits {p : Pending} {a : Attachment} {s : Store} (hp : p.Within s)
    (ha : p.attachment? = some a) (hfree : s.parent? a.node = none) : a.Fits s := by
  rw [Pending.attachment?] at ha
  split at ha
  · next n c place hsubject htarget =>
    cases ha
    exact ⟨hp.2 c place htarget, by simpa [Entity.Within, hsubject] using hp.1, hfree⟩
  · simp at ha

lemma Attachment.Fits.grows {a : Attachment} {s : Store} (h : a.Fits s) : s.Grows (a.apply s) :=
  Store.grows_link a.place h.lt_size h.free

lemma Attachment.Fits.wellFormed {a : Attachment} {s : Store} (h : a.Fits s)
    (hs : s.WellFormed) : (a.apply s).WellFormed :=
  hs.link a.place h.container h.lt_size h.free

/-- What a move does to the store: of all moves only the completion of a construction touches an edge of a
node that has been there before. -/
def Shift (s : Store) : Option Attachment → Store → Prop
  | none, t => s.Edits t
  | some a, t => a.Fits s ∧ t = a.apply s

lemma Move.shift {p q : Point} {a? : Option Attachment} (hp : p.WellFormed) (h : Move p a? q) :
    Shift p.session.store a? q.session.store := by
  cases h with
  | act s pending action result? =>
    rw [Session.store_answer]
    exact (action.run_follows hp.session).session.edits
  | start pending construction subject? hstart =>
    rw [Session.store_bind]
    exact (Construction.start_follows hp.session hstart).1.edits
  | enter pending subject? hon =>
    rw [Session.store_bind]
    exact Relation.ReflTransGen.refl
  | abandon s x pending => exact Relation.ReflTransGen.refl
  | @complete s t x pending result? hfinish =>
    have hfinish := Pending.finish_eq hfinish
    rw [Session.store_conclude]
    split at hfinish
    · next hnone =>
      rw [hnone, hfinish]
      exact Relation.ReflTransGen.refl
    · next a hsome =>
      rw [hsome]
      obtain ⟨hfree, rfl⟩ := hfinish
      exact ⟨Attachment.fits (hp.pending x List.mem_cons_self) hsome hfree, rfl⟩

lemma Move.grows {p q : Point} {a? : Option Attachment} (hp : p.WellFormed) (h : Move p a? q) :
    p.session.store.Grows q.session.store := by
  have hshift := h.shift hp
  cases a? with
  | none => exact Store.Edits.grows hshift
  | some a =>
    obtain ⟨hfits, heq⟩ := hshift
    rw [heq]
    exact hfits.grows

lemma Move.session_wellFormed {p q : Point} {a? : Option Attachment} (hp : p.WellFormed)
    (h : Move p a? q) : q.session.WellFormed := by
  have hs := hp.session
  cases h with
  | act s pending action result? => exact hs.answer result? (action.run_follows hs)
  | start pending construction subject? hstart =>
    obtain ⟨hfollows, hwithin⟩ := Construction.start_follows hs hstart
    exact (hfollows.wellFormed hs).bind subject? hwithin.1
  | enter pending subject? hon => exact hs.bind subject? (hs.lookup hon)
  | abandon s x pending => exact hs
  | @complete s t x pending result? hfinish =>
    have hx := hp.pending x List.mem_cons_self
    have hfinish := Pending.finish_eq hfinish
    split at hfinish
    · rw [hfinish]
      exact hs.conclude result? hx.1
    · next a hsome =>
      obtain ⟨hfree, rfl⟩ := hfinish
      have hfits := Attachment.fits hx hsome hfree
      have ht : (s.withStore (a.apply s.store)).WellFormed :=
        { store := hfits.wellFormed hs.store
          names := fun entry he => (hs.names entry he).grows hfits.grows
          decks := fun d hd => (hs.decks d hd).grows hfits.grows }
      exact ht.conclude result? (hx.1.grows hfits.grows)

lemma Move.wellFormed {p q : Point} {a? : Option Attachment} (hp : p.WellFormed)
    (h : Move p a? q) : q.WellFormed where
  session := h.session_wellFormed hp
  pending := by
    have hgrows := h.grows hp
    cases h with
    | act s pending action result? => exact fun x hx => (hp.pending x hx).grows hgrows
    | start pending construction subject? hstart =>
      intro x hx
      rcases List.mem_cons.mp hx with rfl | hx
      · simpa using (Construction.start_follows hp.session hstart).2
      · exact (hp.pending x hx).grows hgrows
    | enter pending subject? hon => exact fun x hx => (hp.pending x hx).grows hgrows
    | abandon s x pending => exact fun x hx => hp.pending x (List.mem_cons_of_mem _ hx)
    | complete pending result? hfinish =>
      exact fun x hx => (hp.pending x (List.mem_cons_of_mem _ hx)).grows hgrows

lemma Moves.wellFormed {p q : Point} (hp : p.WellFormed) (h : Moves p q) : q.WellFormed := by
  induction h with
  | refl => exact hp
  | tail _ hmove ih =>
    obtain ⟨a?, hmove⟩ := hmove
    exact hmove.wellFormed ih

lemma Moves.grows {p q : Point} (hp : p.WellFormed) (h : Moves p q) :
    p.session.store.Grows q.session.store := by
  induction h with
  | refl => exact Store.Grows.refl _
  | tail hmoves hmove ih =>
    obtain ⟨a?, hmove⟩ := hmove
    exact ih.trans (hmove.grows (Moves.wellFormed hp hmoves))

lemma Session.WellFormed.run {s : Session} (hs : s.WellFormed) (step : Step) : (step.run s).1.WellFormed :=
  (Moves.wellFormed ⟨hs, by simp⟩ (step.run_moves s [])).session

lemma Session.WellFormed.runUntilFault {s : Session} (hs : s.WellFormed) (steps : List Step) :
    (Step.runUntilFault steps s).1.WellFormed :=
  (Moves.wellFormed ⟨hs, by simp⟩ (Step.runUntilFault_moves steps s [])).session

lemma Session.WellFormed.grows_runUntilFault {s : Session} (hs : s.WellFormed) (steps : List Step) :
    s.store.Grows (Step.runUntilFault steps s).1.store :=
  Moves.grows ⟨hs, by simp⟩ (Step.runUntilFault_moves steps s [])

theorem Point.Reached.wellFormed {p : Point} (h : p.Reached) : p.WellFormed :=
  Moves.wellFormed ⟨Session.wellFormed_empty, by simp⟩ h

theorem Session.Reachable.wellFormed {s : Session} (h : s.Reachable) : s.WellFormed :=
  h.choose_spec.wellFormed.session

/-- Every session that occurs in a script, between its steps or inside them, is reached by moves, and in
every session so reached the owner of a node is its parent and no other. -/
theorem single_ownership :
    (∀ (steps : List Step), ∀ s ∈ sessions steps {}, s.Reachable) ∧
      ∀ s : Session, s.Reachable → s.store.SingleOwnership ∧
        ∀ c d n, n ∈ s.store.children c → n ∈ s.store.children d → c = d := by
  refine ⟨fun steps s => reachable_of_mem_sessions, fun s hs => ?_⟩
  have h := hs.wellFormed.store
  refine ⟨h.singleOwnership, fun c d n hc hd => ?_⟩
  rw [h.mem_children_iff] at hc hd
  exact Option.some.inj (hc.symm.trans hd)

theorem single_ownership_of_entangled_list :
    let script : List Step := [.act (.make (.frame none)) (some "f"),
      .buildWith (.child "f" .itemize) (some "i") [.build (.adopt "i" "i" .last) none] none]
    let s := (runAll script {}).1
    s ∈ sessions script {} ∧ s.store.children 1 = [1] ∧ s.store.children 0 = [] ∧
      s.store.SingleOwnership := by
  intro script s
  have hs : s ∈ sessions script {} := runAll_mem_sessions script {}
  exact ⟨hs, by decide, by decide, (single_ownership.2 s (single_ownership.1 script s hs)).1⟩

end SlideDeck.Script
