import SlideDeck.Proofs.Script.Tandem
import SlideDeck.Proofs.Script.Twins

/-! Two runs of the same steps from sessions that differ. Where the steps keep pace, twins stay twins. -/

namespace SlideDeck.Script

mutual

/-- Each step that both runs take has a property in the two sessions, also among the steps inside a step. -/
def Step.Abreast (P : Step → Session → Session → Prop) : Step → Session → Session → Prop
  | .act action result?, s, t => P (.act action result?) s t
  | .build construction result?, s, t => P (.build construction result?) s t
  | .buildWith construction subject? steps result?, s, t =>
    P (.buildWith construction subject? steps result?) s t ∧
      ∀ u v p q, construction.start s = .ok (u, p) → construction.start t = .ok (v, q) →
        Step.AllAbreast P steps (u.bind subject? p.subject) (v.bind subject? q.subject)
  | .within on subject? steps, s, t =>
    P (.within on subject? steps) s t ∧
      ∀ n m, s.lookup on = .ok (.node n) → t.lookup on = .ok (.node m) →
        Step.AllAbreast P steps (s.bind subject? (.node n)) (t.bind subject? (.node m))

def Step.AllAbreast (P : Step → Session → Session → Prop) : List Step → Session → Session → Prop
  | [], _, _ => True
  | step :: rest, s, t =>
    step.Abreast P s t ∧
      ((step.run s).2.fault? = none → (step.run t).2.fault? = none →
        Step.AllAbreast P rest (step.run s).1 (step.run t).1)

end

/-- A question, or the making of a presentation, if the name of the result is one of some that are put aside. -/
def Step.IsAside (aside : List String) : Step → Prop
  | .act (.look _ _) result? | .act (.makeDeck _ _) result? | .build (.deck _ _) result? => ∀ name ∈ result?, name ∈ aside
  | _ => False

/-- As for the steps inside a step, but no step ends the run, and some questions and new presentations are put aside. -/
def Abreast (P : Step → Session → Session → Prop) (aside : List String) : List Step → Session → Session → Prop
  | [], _, _ => True
  | step :: rest, s, t =>
    (step.IsAside aside ∨ step.Abreast P s t) ∧ Abreast P aside rest (step.run s).1 (step.run t).1

/-- A step uses none of the names that are put aside, and fails in both sessions or in neither, as does what it does
before the steps inside it. -/
structure Step.KeepsPace (aside : List String) (step : Step) (s t : Session) : Prop where
  names : ∀ name ∈ step.names, name ∉ aside
  start : ∀ c, step.construction? = some c → (c.start t).isOk = (c.start s).isOk
  fault? : (step.run t).2.fault?.isSome = (step.run s).2.fault?.isSome

def Step.deck? : Step → Option (Option String × SettingsSource)
  | .act (.makeDeck outlineTitle? source) _ => some (outlineTitle?, source)
  | .build (.deck outlineTitle? source) _ | .buildWith (.deck outlineTitle? source) _ _ _ => some (outlineTitle?, source)
  | _ => none

def Supports (C : Comparison) (P : Step → Session → Session → Prop) : Prop :=
  ∀ step s t, P step s t → step.KeepsPace C.aside s t ∧ ∀ outlineTitle? source, step.deck? = some (outlineTitle?, source) →
    (∀ x y, C.alike x y → y.preamble = x.preamble) ∨ s.BuildsOutside C.inside t outlineTitle? source

def Session.LaterTwins (C : Comparison) (K : Pairing) (s t : Session) : Prop := ∃ K', K.Le K' ∧ s.Twins C K' t

variable {C : Comparison} {P : Step → Session → Session → Prop} {K K' : Pairing} {s t : Session}

lemma Session.Twins.later (h : s.Twins C K t) : s.LaterTwins C K t := ⟨K, .refl K, h⟩

lemma Session.LaterTwins.since (h : s.LaterTwins C K' t) (hle : K.Le K') : s.LaterTwins C K t := by
  obtain ⟨K'', hle', h⟩ := h
  exact ⟨K'', hle.trans hle', h⟩

lemma Step.Abreast.here {step : Step} (h : step.Abreast P s t) : P step s t := by
  cases step with
  | act | build => exact h
  | buildWith | within => exact h.1

section

variable {on : String} {subject? : Option String} {steps : List Step}

lemma Step.run_within_of_node {n : NodeId} (h : s.lookup on = .ok (.node n)) :
    ((within on subject? steps).run s).1 = (runUntilFault steps (s.bind subject? (.node n))).1 := by
  simp only [run, h, Entity.node]
  split <;> rfl

lemma Step.run_within_of_no_node (h : ∀ n, s.lookup on ≠ .ok (.node n)) : ((within on subject? steps).run s).1 = s := by
  rw [run]
  split
  · rfl
  · next n hn => exact (h n hn).elim
  · rfl

lemma Step.inside_within_of_no_node (h : ∀ n, s.lookup on ≠ .ok (.node n)) : (within on subject? steps).inside s = [] := by
  rw [inside]
  split
  · next n hn => exact (h n hn).elim
  · rfl

end

lemma Session.Twins.conclude (h : s.Twins C K t) (result? : Option String) {x y : Entity} (hxy : x.Paired K y) :
    (s.conclude result? x).1.Twins C K (t.conclude result? y).1 := h.bind result? (hxy.named result?)

lemma Step.start_isOk_of_sound {step : Step} {c : Construction} (hc : step.construction? = some c)
    (h : (step.run s).2.fault? = none) : (c.start s).isOk = true := by
  cases hstart : c.start s with
  | ok begun => rfl
  | error f =>
    cases step <;> cases hc <;> simp only [run, Construction.run, hstart] at h <;> cases h

lemma Step.keepsPace_of_sound {aside : List String} {step : Step} (hnames : ∀ name ∈ step.names, name ∉ aside)
    (hs : (step.run s).2.fault? = none) (ht : (step.run t).2.fault? = none) : step.KeepsPace aside s t where
  names := hnames
  start _ hc := (start_isOk_of_sound hc ht).trans (start_isOk_of_sound hc hs).symm
  fault? := by rw [hs, ht]

lemma Session.twins_answer {result? : Option String} {a b : Effect}
    (hfault : (t.answer result? b).2.fault?.isSome = (s.answer result? a).2.fault?.isSome)
    (herror : ∀ f g, a.outcome = .error f → b.outcome = .error g → a.session.LaterTwins C K b.session)
    (hok : ∀ x y, a.outcome = .ok x → b.outcome = .ok y →
      ∃ K', K.Le K' ∧ a.session.Twins C K' b.session ∧ x.Paired K' y) :
    (s.answer result? a).1.LaterTwins C K (t.answer result? b).1 := by
  rw [answer, answer] at hfault ⊢
  cases ha : a.outcome with
  | error f =>
    cases hb : b.outcome with
    | error g => exact herror f g ha hb
    | ok y =>
      simp only [ha, hb] at hfault
      cases hfault
  | ok x =>
    cases hb : b.outcome with
    | error g =>
      simp only [ha, hb] at hfault
      cases hfault
    | ok y =>
      obtain ⟨K', hle, hab, hxy⟩ := hok x y ha hb
      exact ⟨K', hle, hab.conclude result? hxy⟩

section

variable (hP : Supports C P) (h : s.Twins C K t)

include hP h

lemma Step.enter_twins {on : String} {subject? : Option String} {steps : List Step}
    (hp : P (.within on subject? steps) s t) :
    (∃ n m, s.lookup on = .ok (.node n) ∧ t.lookup on = .ok (.node m) ∧ K.node n m) ∨
      (∀ n, s.lookup on ≠ .ok (.node n)) ∧ ∀ m, t.lookup on ≠ .ok (.node m) := by
  have hon := h.names ((hP _ _ _ hp).1.names on (List.mem_singleton_self on))
  simp only [ne_eq, Session.lookup_eq_ok_iff]
  generalize s.names.lookup on = e?, t.names.lookup on = e'? at hon ⊢
  cases hon with
  | none => exact .inr ⟨fun _ => Option.some_ne_none _ ∘ Eq.symm, fun _ => Option.some_ne_none _ ∘ Eq.symm⟩
  | some hpaired =>
    cases hpaired with
    | plain hplain hplain' =>
      refine .inr ⟨fun n heq => ?_, fun m heq => ?_⟩
      · obtain rfl := Option.some.inj heq
        exact hplain
      · obtain rfl := Option.some.inj heq
        exact hplain'
    | object ho =>
      cases ho with
      | node hnm => exact .inl ⟨_, _, rfl, rfl, hnm⟩
      | _ => exact .inr (by simp [Entity.node])

lemma Step.run_within_twins {on : String} {subject? : Option String} {steps : List Step}
    (hp : P (.within on subject? steps) s t)
    (hinner : ∀ n m, s.lookup on = .ok (.node n) → t.lookup on = .ok (.node m) → K.node n m →
      (runUntilFault steps (s.bind subject? (.node n))).1.LaterTwins C K
        (runUntilFault steps (t.bind subject? (.node m))).1) :
    ((within on subject? steps).run s).1.LaterTwins C K ((within on subject? steps).run t).1 := by
  obtain ⟨n, m, hn, hm, hnm⟩ | ⟨hno, hno'⟩ := enter_twins hP h hp
  · have hran := hinner n m hn hm hnm
    rwa [run_within_of_node hn, run_within_of_node hm]
  · rw [run_within_of_no_node hno, run_within_of_no_node hno']
    exact h.later

variable (hs : s.Reachable) (ht : t.Reachable)

include hs ht

lemma Step.run_act_twins {action : Action} {result? : Option String} (hp : P (.act action result?) s t) :
    ((act action result?).run s).1.LaterTwins C K ((act action result?).run t).1 := by
  obtain ⟨hpace, hbuilds⟩ := hP _ _ _ hp
  refine Session.twins_answer hpace.fault? (fun f g hf hg => ?_) fun x y hx hy => ?_
  · rw [Action.session_run_of_error hf, Action.session_run_of_error hg]
    exact h.later
  · exact h.endsIn hs.bounded ht.bounded hpace.names (fun _ _ heq => hbuilds _ _ (by rw [heq]; rfl))
      (Action.endsIn rfl hx) (Action.endsIn rfl hy)

lemma Step.start_twins {step : Step} {c : Construction} (hc : step.construction? = some c) (hp : P step s t) :
    (∃ f g, c.start s = .error f ∧ c.start t = .error g) ∨
      ∃ u v p q, c.start s = .ok (u, p) ∧ c.start t = .ok (v, q) ∧ ∃ K', K.Le K' ∧ u.Twins C K' v ∧ p.Paired K' q := by
  obtain ⟨hpace, hbuilds⟩ := hP _ _ _ hp
  have hstart := hpace.start c hc
  have hnames : step.names = c.names := by
    cases step <;> cases hc <;> rfl
  have hdeck (outlineTitle? : Option String) (source : SettingsSource) (heq : c = .deck outlineTitle? source) :
      step.deck? = some (outlineTitle?, source) := by
    subst heq
    cases step <;> cases hc <;> rfl
  cases hu : c.start s with
  | error f =>
    cases hv : c.start t with
    | error g => exact .inl ⟨f, g, rfl, rfl⟩
    | ok begun =>
      rw [hu, hv] at hstart
      cases hstart
  | ok begun =>
    cases hv : c.start t with
    | error g =>
      rw [hu, hv] at hstart
      cases hstart
    | ok begun' =>
      exact .inr ⟨_, _, _, _, rfl, rfl, h.start hs.bounded ht.bounded (hnames ▸ hpace.names)
        (fun _ _ heq => hbuilds _ _ (hdeck _ _ heq)) hu hv⟩

lemma Step.run_build_twins {c : Construction} {result? : Option String} (hp : P (.build c result?) s t) :
    ((build c result?).run s).1.LaterTwins C K ((build c result?).run t).1 := by
  have hfault := (hP _ _ _ hp).1.fault?
  obtain ⟨f, g, hu, hv⟩ | ⟨u, v, p, q, hu, hv, K', hle, huv, hpq⟩ := start_twins hP h hs ht rfl hp
  · simp only [run, Construction.run, hu, hv]
    exact h.later
  · cases hend : p.finish u with
    | error f =>
      cases hend' : q.finish v with
      | error g =>
        simp only [run, Construction.run, hu, hv, hend, hend']
        exact ⟨K', hle, huv⟩
      | ok v' =>
        simp only [run, Construction.run, hu, hv, hend, hend'] at hfault
        cases hfault
    | ok u' =>
      cases hend' : q.finish v with
      | error g =>
        simp only [run, Construction.run, hu, hv, hend, hend'] at hfault
        cases hfault
      | ok v' =>
        simp only [run, Construction.run, hu, hv, hend, hend']
        exact ⟨K', hle, (huv.finish hpq hend hend').conclude result? hpq.subject⟩

lemma Step.run_buildWith_twins {c : Construction} {subject? result? : Option String} {steps : List Step}
    (hp : P (.buildWith c subject? steps result?) s t)
    (hinner : ∀ u v p q K', c.start s = .ok (u, p) → c.start t = .ok (v, q) → u.Twins C K' v → p.Paired K' q →
      let a := runUntilFault steps (u.bind subject? p.subject)
      let b := runUntilFault steps (v.bind subject? q.subject)
      (Answer.firstFault? b.2).isSome = (Answer.firstFault? a.2).isSome ∧ a.1.LaterTwins C K' b.1) :
    ((buildWith c subject? steps result?).run s).1.LaterTwins C K ((buildWith c subject? steps result?).run t).1 := by
  have hfault := (hP _ _ _ hp).1.fault?
  obtain ⟨f, g, hu, hv⟩ | ⟨u, v, p, q, hu, hv, K', hle, huv, hpq⟩ := start_twins hP h hs ht rfl hp
  · simp only [run, hu, hv]
    exact h.later
  · obtain ⟨hfirst, hran⟩ := hinner u v p q K' hu hv huv hpq
    simp only [run, hu, hv] at hfault ⊢
    generalize runUntilFault steps (u.bind subject? p.subject) = a,
      runUntilFault steps (v.bind subject? q.subject) = b at hfirst hran hfault
    cases hfirst_a : Answer.firstFault? a.2 with
    | some f =>
      rw [hfirst_a] at hfirst
      obtain ⟨g, hfirst_b⟩ := Option.isSome_iff_exists.mp hfirst
      simp only [hfirst_b]
      exact hran.since hle
    | none =>
      rw [hfirst_a] at hfirst
      have hfirst_b := Option.isNone_iff_eq_none.mp (Option.isSome_eq_false_iff.mp hfirst)
      simp only [hfirst_a, hfirst_b] at hfault ⊢
      cases hend : p.finish a.1 with
      | error f =>
        cases hend' : q.finish b.1 with
        | error g => exact hran.since hle
        | ok v' =>
          simp only [hend, hend'] at hfault
          cases hfault
      | ok u' =>
        cases hend' : q.finish b.1 with
        | error g =>
          simp only [hend, hend'] at hfault
          cases hfault
        | ok v' =>
          obtain ⟨K'', hle', hab⟩ := hran
          have hpq' := hpq.mono hle'
          exact ⟨K'', hle.trans hle', (hab.finish hpq' hend hend').conclude result? hpq'.subject⟩

end

mutual

theorem Step.run_twins (hP : Supports C P) : ∀ (step : Step) {K : Pairing} {s t : Session}, s.Twins C K t →
    s.Reachable → t.Reachable → step.Abreast P s t → (step.run s).1.LaterTwins C K (step.run t).1
  | .act _ _, _, _, _, h, hs, ht, hp => run_act_twins hP h hs ht hp
  | .build _ _, _, _, _, h, hs, ht, hp => run_build_twins hP h hs ht hp
  | .buildWith _ subject? steps _, _, _, _, h, hs, ht, hp =>
    run_buildWith_twins hP h hs ht hp.1 fun u v p q _ hu hv huv hpq =>
      Step.runUntilFault_twins hP steps (huv.bind subject? hpq.subject) (hs.start hu subject?) (ht.start hv subject?)
        (hp.2 u v p q hu hv)
  | .within _ subject? steps, _, _, _, h, hs, ht, hp =>
    run_within_twins hP h hp.1 fun n m hn hm hnm =>
      (Step.runUntilFault_twins hP steps (h.bind subject? (.object (.node hnm))) (hs.enter hn subject?)
        (ht.enter hm subject?) (hp.2 n m hn hm)).2

theorem Step.runUntilFault_twins (hP : Supports C P) : ∀ (steps : List Step) {K : Pairing} {s t : Session},
    s.Twins C K t → s.Reachable → t.Reachable → Step.AllAbreast P steps s t →
    (Answer.firstFault? (Step.runUntilFault steps t).2).isSome =
        (Answer.firstFault? (Step.runUntilFault steps s).2).isSome ∧
      (Step.runUntilFault steps s).1.LaterTwins C K (Step.runUntilFault steps t).1
  | [], _, _, _, h, _, _, _ => ⟨rfl, h.later⟩
  | step :: rest, K, s, t, h, hs, ht, hp => by
    have hstep := Step.run_twins hP step h hs ht hp.1
    have hfault := (hP _ _ _ hp.1.here).1.fault?
    cases hf : (step.run s).2.fault? with
    | some f =>
      rw [hf] at hfault
      obtain ⟨g, hg⟩ := Option.isSome_iff_exists.mp hfault
      rw [runUntilFault_cons_of_fault _ hf, runUntilFault_cons_of_fault _ hg, Answer.firstFault?_singleton,
        Answer.firstFault?_singleton, hf, hg]
      exact ⟨rfl, hstep⟩
    | none =>
      rw [hf] at hfault
      have hg := Option.isNone_iff_eq_none.mp (Option.isSome_eq_false_iff.mp hfault)
      obtain ⟨K', hle, hran⟩ := hstep
      obtain ⟨hfirst, hrest⟩ := Step.runUntilFault_twins hP rest hran (hs.run step) (ht.run step) (hp.2 hf hg)
      rw [runUntilFault_cons_of_sound _ hf, runUntilFault_cons_of_sound _ hg]
      simp only [Answer.firstFault?, List.findSome?_cons, hf, hg]
      exact ⟨hfirst, hrest.since hle⟩

end

mutual

theorem Step.inside_twins (hP : Supports C P) : ∀ (step : Step) {K : Pairing} {s t : Session}, s.Twins C K t →
    s.Reachable → t.Reachable → step.Abreast P s t →
    List.Forall₂ (Session.LaterTwins C K) (step.inside s) (step.inside t)
  | .act _ _, _, _, _, _, _, _, _ | .build _ _, _, _, _, _, _, _, _ => .nil
  | .buildWith _ subject? steps _, K, s, t, h, hs, ht, hp => by
    obtain ⟨f, g, hu, hv⟩ | ⟨u, v, p, q, hu, hv, K', hle, huv, hpq⟩ := start_twins hP h hs ht rfl hp.1
    · simp only [Step.inside, hu, hv]
      exact .nil
    · simp only [Step.inside, hu, hv]
      exact (Step.insideUntilFault_twins hP steps (huv.bind subject? hpq.subject) (hs.start hu subject?)
        (ht.start hv subject?) (hp.2 u v p q hu hv)).imp fun _ _ hlater => hlater.since hle
  | .within _ subject? steps, K, s, t, h, hs, ht, hp => by
    obtain ⟨n, m, hn, hm, hnm⟩ | ⟨hno, hno'⟩ := enter_twins hP h hp.1
    · simp only [Step.inside, hn, hm]
      exact Step.insideUntilFault_twins hP steps (h.bind subject? (.object (.node hnm))) (hs.enter hn subject?)
        (ht.enter hm subject?) (hp.2 n m hn hm)
    · rw [inside_within_of_no_node hno, inside_within_of_no_node hno']
      exact .nil

theorem Step.insideUntilFault_twins (hP : Supports C P) : ∀ (steps : List Step) {K : Pairing} {s t : Session},
    s.Twins C K t → s.Reachable → t.Reachable → Step.AllAbreast P steps s t →
    List.Forall₂ (Session.LaterTwins C K) (Step.insideUntilFault steps s) (Step.insideUntilFault steps t)
  | [], _, _, _, h, _, _, _ => .cons h.later .nil
  | step :: rest, K, s, t, h, hs, ht, hp => by
    have hinside := Step.inside_twins hP step h hs ht hp.1
    have hstep := Step.run_twins hP step h hs ht hp.1
    have hfault := (hP _ _ _ hp.1.here).1.fault?
    simp only [Step.insideUntilFault]
    refine List.rel_append (.cons h.later hinside) ?_
    cases hf : (step.run s).2.fault? with
    | some f =>
      rw [hf] at hfault
      obtain ⟨g, hg⟩ := Option.isSome_iff_exists.mp hfault
      simp only [hg]
      exact .cons hstep .nil
    | none =>
      rw [hf] at hfault
      have hg := Option.isNone_iff_eq_none.mp (Option.isSome_eq_false_iff.mp hfault)
      simp only [hg]
      obtain ⟨K', hle, hran⟩ := hstep
      exact (Step.insideUntilFault_twins hP rest hran (hs.run step) (ht.run step) (hp.2 hf hg)).imp
        fun _ _ hlater => hlater.since hle

end

namespace Session

structure GrowsAside (aside : List String) (s t : Session) : Prop where
  store : s.store.Appends (fun _ => True) t.store
  deck {i : ℕ} {d : Deck} : s.workspace.deck? i = some d → t.workspace.deck? i = some d
  settings {i : ℕ} : i < s.workspace.settings.size →
    i < t.workspace.settings.size ∧ t.workspace.settingsAt i = s.workspace.settingsAt i
  arguments : t.workspace.arguments = s.workspace.arguments
  marks : t.marks = s.marks
  names {name : String} : name ∉ aside → t.names.lookup name = s.names.lookup name

variable {aside : List String}

lemma growsAside_refl (aside : List String) (s : Session) : s.GrowsAside aside s :=
  ⟨.refl _ _, id, fun hi => ⟨hi, rfl⟩, rfl, rfl, fun _ => rfl⟩

lemma growsAside_makeDeck {outlineTitle? : Option String} {source : SettingsSource} {x : Entity}
    (h : s.makeDeck outlineTitle? source = .ok (t, x)) : s.GrowsAside aside t := by
  obtain ⟨u, place, store, d, htake, hbuild, rfl, rfl⟩ := exists_build_of_makeDeck h
  have hdeck {w : Workspace} {i : ℕ} {e : Deck} (he : w.deck? i = some e) : (w.decks.push d)[i]? = some e := by
    have hlt : i < w.decks.size := (Array.getElem?_eq_some_iff.mp he).1
    rw [Array.getElem?_push_lt hlt, ← Array.getElem?_eq_getElem hlt]
    exact he
  cases takes htake with
  | shared => exact ⟨Deck.appends_build hbuild, hdeck, fun hi => ⟨hi, rfl⟩, rfl, rfl, fun _ => rfl⟩
  | added source settings =>
    refine ⟨Deck.appends_build hbuild, hdeck, fun {i} hi => ?_, rfl, rfl, fun _ => rfl⟩
    simp only [Workspace.addSettings, Array.size_push, Workspace.settingsAt, Array.getD_eq_getD_getElem?]
    rw [Array.getElem?_push_lt hi, Array.getElem?_eq_getElem hi]
    exact ⟨Nat.lt_succ_of_lt hi, rfl⟩

lemma growsAside_answer {effect : Effect} (h : s.GrowsAside aside effect.session) {result? : Option String}
    (hresult : ∀ name ∈ result?, name ∈ aside) : s.GrowsAside aside (s.answer result? effect).1 := by
  rw [answer]
  cases effect.outcome with
  | error fault => exact h
  | ok e =>
    cases result? with
    | none => exact h
    | some name =>
      refine { h with names := fun {other} hother => ?_ }
      have hne : other ≠ name := by
        rintro rfl
        exact hother (hresult other rfl)
      exact (lookup_bindName_of_ne _ _ hne).trans (h.names hother)

lemma Twins.growAside (h : s.Twins C K t) {s' t' : Session} (hs : s.GrowsAside C.aside s')
    (ht : t.GrowsAside C.aside t') : s'.Twins C K t' where
  workspace := {
    h.workspace with
    store := h.workspace.store.grow (hs.store.mono fun _ _ => trivial) (ht.store.mono fun _ _ => trivial)
    deck := fun hij => by
      obtain ⟨d, e, hd, he, hde, hsettings⟩ := h.workspace.deck hij
      exact ⟨d, e, hs.deck hd, ht.deck he, hde, hsettings⟩
    settings := fun hij => by
      obtain ⟨hi, hj, halike⟩ := h.workspace.settings hij
      obtain ⟨hi', heq⟩ := hs.settings hi
      obtain ⟨hj', heq'⟩ := ht.settings hj
      rw [heq, heq']
      exact ⟨hi', hj', halike⟩
    arguments := ht.arguments.trans (h.workspace.arguments.trans hs.arguments.symm) }
  marks ho name := by
    have hmarks := h.marks ho name
    rw [marked?, marked?] at hmarks ⊢
    rw [hs.marks, ht.marks, hmarks]
  names hname := by
    rw [hs.names hname, ht.names hname]
    exact h.names hname

end Session

lemma Step.IsAside.inside {aside : List String} {step : Step} (h : step.IsAside aside) (s : Session) :
    step.inside s = [] := by
  cases step with
  | act | build => rfl
  | _ => exact h.elim

lemma Step.IsAside.growsAside {aside : List String} {step : Step} (h : step.IsAside aside) (s : Session) :
    s.GrowsAside aside (step.run s).1 := by
  cases step with
  | act action result? =>
    cases action with
    | look on question =>
      refine Session.growsAside_answer ?_ h
      rw [Action.run_look]
      cases s.lookup on <;> exact s.growsAside_refl aside
    | makeDeck outlineTitle? source =>
      refine Session.growsAside_answer ?_ h
      cases hmake : s.makeDeck outlineTitle? source with
      | error fault =>
        rw [Action.run, hmake]
        exact s.growsAside_refl aside
      | ok made =>
        rw [Action.run, hmake]
        exact Session.growsAside_makeDeck hmake
    | _ => exact h.elim
  | build construction result? =>
    cases construction with
    | deck outlineTitle? source =>
      refine Session.growsAside_answer ?_ h
      cases hmake : s.makeDeck outlineTitle? source with
      | error fault =>
        simp only [Construction.run, Construction.start, hmake]
        exact s.growsAside_refl aside
      | ok made =>
        obtain ⟨t, x⟩ := made
        have hgrows : s.GrowsAside aside t := Session.growsAside_makeDeck hmake
        obtain ⟨u, _, _, _, _, _, _, rfl⟩ := Session.exists_build_of_makeDeck hmake
        simp only [Construction.run, Construction.start, hmake, bind, Except.bind, Pending.finish]
        exact hgrows
    | _ => exact h.elim
  | _ => exact h.elim

theorem sessions_twins (hP : Supports C P) (steps : List Step) {K : Pairing} {s t : Session} (h : s.Twins C K t)
    (hs : s.Reachable) (ht : t.Reachable) (hp : Abreast P C.aside steps s t) :
    List.Forall₂ (Session.LaterTwins C K) (sessions steps s) (sessions steps t) := by
  induction steps generalizing K s t with
  | nil => exact .cons h.later .nil
  | cons step rest ih =>
    obtain ⟨hstep, hrest⟩ := hp
    have hinside : List.Forall₂ (Session.LaterTwins C K) (step.inside s) (step.inside t) := by
      obtain haside | habreast := hstep
      · rw [haside.inside, haside.inside]
        exact .nil
      · exact Step.inside_twins hP step h hs ht habreast
    obtain ⟨K', hle, hran⟩ : (step.run s).1.LaterTwins C K (step.run t).1 := by
      obtain haside | habreast := hstep
      · exact (h.growAside (haside.growsAside s) (haside.growsAside t)).later
      · exact Step.run_twins hP step h hs ht habreast
    exact List.rel_append (.cons h.later hinside)
      ((ih hran (hs.run step) (ht.run step) hrest).imp fun _ _ hlater => hlater.since hle)

end SlideDeck.Script
