import SlideDeck.Proofs.Script.Parts

/-! A presentation passes calls on: in one session, the steps that stand for a step on its parts do what the step
itself does. -/

namespace SlideDeck.Script

structure Parts.Opened (p : Parts) (j : ℕ) (d : Deck) (s : Session) : Prop where
  deck : s.lookup p.deck = .ok (.object (.deck j))
  document : s.lookup p.document = .ok (.node d.document)
  header : s.lookup p.header = .ok (.node d.header)
  slide : s.lookup p.slide = .ok (.atom (.bool true))
  deck? : ∃ title, s.workspace.deck? j = some { d with outlineTitle := title }

namespace Parts.Opened

variable {p : Parts} {j : ℕ} {d : Deck} {s t : Session}

section

variable (h : p.Opened j d s)

include h

lemma of_same (hnames : t.names = s.names) (hdecks : ∀ {d : Deck}, s.workspace.deck? j = some d →
    ∃ title, t.workspace.deck? j = some { d with outlineTitle := title }) : p.Opened j d t where
  deck := (Session.lookup_congr hnames _).trans h.deck
  document := (Session.lookup_congr hnames _).trans h.document
  header := (Session.lookup_congr hnames _).trans h.header
  slide := (Session.lookup_congr hnames _).trans h.slide
  deck? := by
    obtain ⟨title, hd⟩ := h.deck?
    obtain ⟨title'?, hd⟩ := hdecks hd
    exact ⟨title'?, hd⟩

lemma bind {name? : Option String} (hname : ∀ name ∈ name?, name ∉ p.names) (e : Entity) :
    p.Opened j d (s.bind name? e) := by
  have hkept {other : String} (hother : other ∈ p.names) : (s.bind name? e).lookup other = s.lookup other :=
    Session.lookup_bind_of_ne (fun name hmem heq => hname name hmem (heq ▸ hother)) e
  refine ⟨(hkept ?_).trans h.deck, (hkept ?_).trans h.document, (hkept ?_).trans h.header, (hkept ?_).trans h.slide, ?_⟩
  · simp [names]
  · simp [names]
  · simp [names]
  · simp [names]
  · rw [Session.workspace_bind]
    exact h.deck?

lemma finish {x : Pending} (hfinish : x.finish s = .ok t) : p.Opened j d t := by
  refine h.of_same ?_ (Pending.finish_keeps hfinish).decks
  have heq := Pending.finish_eq hfinish
  split at heq
  · rw [heq]
  · rw [heq.2]
    rfl

variable (hs : s.Reachable)

include hs

lemma act (action : Action) : p.Opened j d (action.run s).session :=
  h.of_same (action.run_follows hs.wellFormed).session.names (action.deck?_run s)

lemma start {construction : Construction} {x : Pending} (hstart : construction.start s = .ok (t, x)) :
    p.Opened j d t :=
  h.of_same (construction.start_follows hs.wellFormed hstart).1.names (Construction.start_keeps hstart).decks

lemma within : d.Within s.store := by
  obtain ⟨title, hd⟩ := h.deck?
  have hwithin := hs.wellFormed.deck? hd
  exact ⟨hwithin.document, hwithin.preamble, hwithin.header⟩

end

lemma answer {effect : Effect} (h : p.Opened j d effect.session) {result? : Option String}
    (hresult : ∀ name ∈ result?, name ∉ p.names) (s : Session) : p.Opened j d (s.answer result? effect).1 := by
  rw [Session.answer]
  cases effect.outcome with
  | error fault => exact h
  | ok e => exact h.bind hresult _

def home (d : Deck) : Method → NodeId
  | .head | .package | .newCommand => d.header
  | _ => d.document

section

variable (h : p.Opened j d s)

include h

lemma lookup_home (method : Method) : s.lookup (p.home method) = .ok (.node (home d method)) := by
  cases method <;> first | exact h.document | exact h.header

lemma containerFor_deck (method : Method) (hmethod : method.isOfDeck = true) :
    s.containerFor (.object (.deck j)) method = .ok (home d method) := by
  obtain ⟨title, hd⟩ := h.deck?
  simp only [Session.containerFor, hd]
  cases method <;> first | rfl | cases hmethod

variable (hs : s.Reachable)

include hs

lemma containerFor_home (method : Method) (hmethod : method.isOfDeck = true)
    (hno : method ≠ .frame ∧ method ≠ .head ∧ method ≠ .setTitle) :
    s.containerFor (.node (home d method)) method = .ok (home d method) := by
  have hdocument := (h.within hs).document.kind_eq
  have hheader := (h.within hs).header.kind_eq
  simp only [Session.containerFor, Entity.node]
  cases method <;> simp_all [home, Method.isOf, Method.isOfDeck, Method.isCommon, Kind.isContainer]

lemma run_onParts {action : Action} (hforwarded : p.deck ∈ action.names → action.Forwarded) :
    (action.onParts p).run s = action.run s := by
  by_cases hdeck : p.deck ∈ action.names
  · have hforwarded := hforwarded hdeck
    cases action with
    | change on c =>
      obtain rfl := List.mem_singleton.mp hdeck
      cases c with
      | headings name? sub? =>
        have hhome := h.containerFor_home hs .headings rfl (by simp)
        have hpassed := h.containerFor_deck .headings rfl
        simp only [Action.onParts, Parts.instead, if_pos, Action.run, h.deck, h.document, Bind.bind, Except.bind,
          Session.change, Change.method, hpassed]
        simp only [home] at hhome
        simp only [hhome]
        rfl
      | _ => cases hforwarded
    | look on question =>
      cases question with
      | has label =>
        obtain rfl := List.mem_singleton.mp hdeck
        obtain ⟨title, hd⟩ := h.deck?
        simp only [Action.onParts, Parts.instead, if_pos, Action.run, h.deck, h.document, Session.ask, Session.has, hd]
        rfl
      | _ => cases hforwarded
    | _ => cases hforwarded
  · cases action with
    | change on c =>
      rw [Action.onParts, Parts.instead, if_neg fun heq => hdeck (by simp [Action.names, heq])]
    | look on question =>
      rw [Action.onParts, Parts.instead, if_neg fun heq => hdeck (by simp [Action.names, heq])]
    | _ => rfl

lemma start_onParts {construction : Construction} (hdetour : construction.detour? p = none)
    (hforwarded : p.deck ∈ construction.names → construction.Forwarded p) :
    (construction.onParts p).start s = construction.start s := by
  cases construction with
  | deck outlineTitle? source => rfl
  | adopt on node place =>
    by_cases hon : on = p.deck
    · subst hon
      have hadd := h.containerFor_home hs .addContent rfl (by simp)
      have hinsert := h.containerFor_home hs .insertContent rfl (by simp)
      simp only [home] at hadd hinsert
      simp only [Construction.onParts, Parts.instead, if_pos, Construction.start, h.deck, h.document, Bind.bind,
        Except.bind]
      cases place with
      | first => simp only [h.containerFor_deck .insertContent rfl, hinsert, home]
      | last => simp only [h.containerFor_deck .addContent rfl, hadd, home]
    · rw [Construction.onParts, Parts.instead, if_neg hon]
  | child on builder =>
    by_cases hon : on = p.deck
    · subst hon
      have hmethod : builder.method.isOfDeck = true := hforwarded (by simp [Construction.names])
      have hno : builder.method ≠ .frame ∧ builder.method ≠ .head ∧ builder.method ≠ .setTitle := by
        cases builder <;> simp [Construction.detour?] at hdetour <;> simp [Builder.method]
      simp only [Construction.onParts, Parts.instead, if_pos, Construction.start, h.deck, h.lookup_home, Bind.bind,
        Except.bind, h.containerFor_deck _ hmethod, h.containerFor_home hs _ hmethod hno]
    · rw [Construction.onParts, Parts.instead, if_neg hon]
  | head on => rfl

end

end Parts.Opened

namespace Step

variable {s : Session}

lemma run_buildWith_congr {construction other : Construction} (hstart : other.start s = construction.start s)
    {subject? : Option String} {steps steps' : List Step} {q : List Answer → List Answer → Prop}
    (hinner : ∀ t x, construction.start s = .ok (t, x) →
      let a := runUntilFault steps (t.bind subject? x.subject)
      let b := runUntilFault steps' (t.bind subject? x.subject)
      b.1 = a.1 ∧ q a.2 b.2 ∧ Answer.firstFault? b.2 = Answer.firstFault? a.2) (result? : Option String) :
    let a := (buildWith construction subject? steps result?).run s
    let b := (buildWith other subject? steps' result?).run s
    b.1 = a.1 ∧ ((∃ fault, a.2 = .plain (.error fault) [] ∧ b.2 = .plain (.error fault) []) ∨ a.2.Nest q b.2) := by
  intro a b
  simp only [a, b, run, hstart]
  cases hbegun : construction.start s with
  | error fault => exact ⟨rfl, .inl ⟨fault, rfl, rfl⟩⟩
  | ok begun =>
    obtain ⟨hend, hanswers, hfault⟩ := hinner begun.1 begun.2 hbegun
    simp only [hend, hfault]
    cases Answer.firstFault? (runUntilFault steps (begun.1.bind subject? begun.2.subject)).2 with
    | some fault => exact ⟨rfl, .inr ⟨_, _, _, rfl, rfl, hanswers⟩⟩
    | none =>
      cases begun.2.finish (runUntilFault steps (begun.1.bind subject? begun.2.subject)).1 with
      | error fault => exact ⟨rfl, .inr ⟨_, _, _, rfl, rfl, hanswers⟩⟩
      | ok t => exact ⟨rfl, .inr ⟨_, _, _, rfl, rfl, hanswers⟩⟩

lemma run_within_congr (on : String) {subject? : Option String} {steps steps' : List Step}
    {q : List Answer → List Answer → Prop} (hnil : q [] [])
    (hinner : ∀ n, s.lookup on = .ok (.node n) →
      let a := runUntilFault steps (s.bind subject? (.node n))
      let b := runUntilFault steps' (s.bind subject? (.node n))
      b.1 = a.1 ∧ q a.2 b.2 ∧ Answer.firstFault? b.2 = Answer.firstFault? a.2) :
    let a := (within on subject? steps).run s
    let b := (within on subject? steps').run s
    b.1 = a.1 ∧ a.2.Nest q b.2 := by
  intro a b
  simp only [a, b]
  cases he : s.lookup on with
  | error fault =>
    rw [run, run, he]
    exact ⟨rfl, _, _, _, rfl, rfl, hnil⟩
  | ok e =>
    by_cases hnode : ∃ n, e = .node n
    · obtain ⟨n, rfl⟩ := hnode
      obtain ⟨hend, hanswers, hfault⟩ := hinner n he
      rw [within_run he rfl, within_run he rfl, hend, hfault]
      exact ⟨rfl, _, _, _, rfl, rfl, hanswers⟩
    · have hno (n : NodeId) : e ≠ .node n := fun heq => hnode ⟨n, heq⟩
      rw [run_within_of_ne he hno, run_within_of_ne he hno]
      exact ⟨rfl, _, _, _, rfl, rfl, hnil⟩

lemma run_buildWith_cons {construction other : Construction} {t u v : Session} {x : Pending}
    (hstart : construction.start s = .ok (u, x)) (hother : other.start t = .ok (v, x)) {subject? : Option String}
    {first : Step} {answer : Answer} (hsound : answer.fault? = none)
    (hfirst : first.run (v.bind subject? x.subject) = (u.bind subject? x.subject, answer)) (steps : List Step)
    (result? : Option String) :
    ∃ w outcome inner, (buildWith construction subject? steps result?).run s = (w, .nested outcome inner) ∧
      (buildWith other subject? (first :: steps) result?).run t = (w, .nested outcome (answer :: inner)) := by
  have hinner : runUntilFault (first :: steps) (v.bind subject? x.subject) =
      ((runUntilFault steps (u.bind subject? x.subject)).1,
        answer :: (runUntilFault steps (u.bind subject? x.subject)).2) := by
    rw [runUntilFault_cons_of_sound _ (by rw [hfirst]; exact hsound), hfirst]
  have hfault (answers : List Answer) : Answer.firstFault? (answer :: answers) = Answer.firstFault? answers := by
    rw [Answer.firstFault?, List.findSome?_cons, hsound]
    rfl
  simp only [run, hstart, hother, hinner, hfault]
  cases Answer.firstFault? (runUntilFault steps (u.bind subject? x.subject)).2 with
  | some fault => exact ⟨_, _, _, rfl, rfl⟩
  | none => cases x.finish (runUntilFault steps (u.bind subject? x.subject)).1 <;> exact ⟨_, _, _, rfl, rfl⟩

lemma run_build {construction : Construction} {result? : Option String} {t : Session}
    {outcome : Except Fault Value} {inner : List Answer}
    (h : (buildWith construction none [] result?).run s = (t, .nested outcome inner)) :
    (build construction result?).run s = (t, .plain outcome []) ∧ inner = [] := by
  have hlog (level? : Option Log.Level) : Log.visible level? [] = [] := by cases level? <;> rfl
  rw [run] at h
  rw [run, Construction.run]
  cases hbegun : construction.start s with
  | error fault =>
    simp only [hbegun, Prod.mk.injEq] at h
    cases h.2
  | ok begun =>
    simp only [hbegun, runUntilFault, Session.bind, Answer.firstFault?, List.findSome?_nil] at h
    simp only [Session.answer]
    cases hfinish : begun.2.finish begun.1 with
    | error fault =>
      simp only [hfinish, Prod.mk.injEq, Answer.nested.injEq] at h
      obtain ⟨rfl, rfl, rfl⟩ := h
      exact ⟨by rw [hlog], rfl⟩
    | ok u =>
      simp only [hfinish, Prod.mk.injEq, Answer.nested.injEq] at h
      obtain ⟨rfl, rfl, rfl⟩ := h
      exact ⟨by simp only [hlog], rfl⟩

end Step

lemma Parts.run_blank (p : Parts) {s : Session} {n : NodeId} (hdocument : s.lookup p.document = .ok (.node n))
    (name : String) : ∃ blanked : Answer, blanked.fault? = none ∧
      (p.blank name).run s = (s.bind (some name) (.atom (.bool true)), blanked) := by
  have hequal : s.equal (.node n) (.node n) = true := by
    simp [Session.equal, Session.sameObject, Entity.node]
  refine ⟨.plain (.ok (.atom (.bool true))) (Log.visible s.logger.level? []), rfl, ?_⟩
  simp only [blank, Step.run, Action.run, hdocument, Session.ask, Except.map, hequal]
  rfl

lemma Parts.run_naming (p : Parts) {s : Session} {n : NodeId} (hheader : s.lookup p.header = .ok (.node n))
    (result? : Option String) : ∃ named, Answer.firstFault? named = none ∧
      Step.runUntilFault (result?.map fun name => .within p.header (some name) []).toList s =
        (s.bind result? (.node n), named) := by
  cases result? with
  | none => exact ⟨[], rfl, rfl⟩
  | some name =>
    refine ⟨[.nested (.ok ((s.bind (some name) (.node n)).present (.node n))) []], rfl, ?_⟩
    rw [Option.map_some, Option.toList_some, Step.runUntilFault_singleton, within_run hheader rfl]
    rfl

namespace Parts.Opened

variable {p : Parts} {j : ℕ} {d : Deck} {s : Session}

section

variable (h : p.Opened j d s)

include h

lemma run_buildWith {construction : Construction} {subject? result? : Option String} {steps : List Step}
    (hresult : ∀ name ∈ result?, name ∉ p.names)
    (hinner : ∀ t x, construction.start s = .ok (t, x) →
      p.Opened j d (Step.runUntilFault steps (t.bind subject? x.subject)).1) :
    p.Opened j d ((Step.buildWith construction subject? steps result?).run s).1 := by
  rw [Step.run]
  cases hbegun : construction.start s with
  | error fault => exact h
  | ok begun =>
    have hran := hinner begun.1 begun.2 hbegun
    simp only
    split
    · exact hran
    · cases hfinish : begun.2.finish (Step.runUntilFault steps (begun.1.bind subject? begun.2.subject)).1 with
      | error fault => exact hran
      | ok t => exact (hran.finish hfinish).bind hresult _

lemma run_within {on : String} {subject? : Option String} {steps : List Step}
    (hinner : ∀ n, s.lookup on = .ok (.node n) →
      p.Opened j d (Step.runUntilFault steps (s.bind subject? (.node n))).1) :
    p.Opened j d ((Step.within on subject? steps).run s).1 := by
  rw [Step.run]
  split
  · exact h
  · next n hon =>
    have hran := hinner n hon
    simp only
    split <;> exact hran
  · exact h

lemma start_slide (title? : Option String) :
    let made := s.store.create (.frame title?)
    (Construction.child p.deck (.frame title?)).start s =
      .ok (s.withStore made.1, { subject := .node made.2, target? := some (d.document, .last) }) := by
  simp only [Construction.start, h.deck, Bind.bind, Except.bind, Builder.method,
    h.containerFor_deck .frame rfl, Builder.draft]
  rfl

lemma start_head : (Construction.head p.deck).start s = .ok (s, { subject := .node d.header, target? := none }) := by
  simp only [Construction.start, h.deck, Bind.bind, Except.bind, h.containerFor_deck .head rfl]
  rfl

variable (hs : s.Reachable)

include hs

lemma run_construction (construction : Construction) : p.Opened j d (construction.run s).session := by
  rw [Construction.run]
  cases hstart : construction.start s with
  | error fault => exact h
  | ok begun =>
    have hbegun := h.start hs hstart
    simp only
    cases hfinish : begun.2.finish begun.1 with
    | error fault => exact hbegun
    | ok t => exact hbegun.finish hfinish

lemma start_adopt (title? : Option String) :
    let made := s.store.create (.frame title?)
    let t := (s.withStore made.1).bind (some p.slide) (.node made.2)
    (Construction.adopt p.document p.slide .last).start t =
      .ok (t, { subject := .node made.2, target? := some (d.document, .last) }) := by
  intro made t
  have hdocument : t.lookup p.document = .ok (.node d.document) :=
    (Session.lookup_bind_of_ne (by simpa using p.document_ne.2) _).trans h.document
  have hslide : t.lookup p.slide = .ok (.node made.2) := Session.lookup_bind _ _ _
  have hkind : t.store.kind d.document = .environment := by
    have hwithin := (h.within hs).document
    exact ((Store.grows_create s.store (.frame title?)).hasKind hwithin).kind_eq
  have hfree : t.checkFree made.2 = .ok () := by
    have hparent : made.1.parent? made.2 = none := by
      rw [show made.2 = s.store.size from Store.create_snd s.store _]
      exact Store.parent?_create_size _
    have howned : t.store.owned? made.2 = none := by
      change (made.1.parent? made.2).map _ = none
      rw [hparent]
      rfl
    rw [Session.checkFree, howned]
  simp only [Construction.start, hdocument, Bind.bind, Except.bind, Session.containerFor, Entity.node, hkind,
    Method.isOf, Kind.isContainer, if_pos]
  rw [hslide]
  simp only [Entity.node, hfree]

lemma run_addSlide (title? : Option String) {subject? : Option String} (hsubject : ∀ name ∈ subject?, name ∉ p.names)
    (steps : List Step) (result? : Option String) :
    ∃ t made blanked outcome inner, made.fault? = none ∧
      (Step.buildWith (.child p.deck (.frame title?)) subject? steps result?).run s = (t, .nested outcome inner) ∧
      Step.runUntilFault (p.addSlide title? subject? steps result?) s =
        (t, [made, .nested outcome (blanked :: inner)]) := by
  let made := s.store.create (.frame title?)
  let u := s.withStore made.1
  let v := u.bind (some p.slide) (.node made.2)
  have hmake : (Step.act (.make (.frame title?)) (some p.slide)).run s =
      (v, .plain (.ok (v.present (.node made.2))) (Log.visible s.logger.level? [])) := rfl
  have hdocument : (v.bind subject? (.node made.2)).lookup p.document = .ok (.node d.document) := by
    rw [Session.lookup_bind_of_ne fun other hmem heq => hsubject other hmem (heq ▸ by simp [names]),
      Session.lookup_bind_of_ne (by simpa using p.document_ne.2)]
    exact h.document
  obtain ⟨blanked, hsound, hblank⟩ := p.run_blank hdocument p.slide
  -- no other step sees the slide under the name that it is put in with
  have hrestored : u.bind (some p.slide) (.atom (.bool true)) = u := Session.bind_of_lookup h.slide
  rw [Session.bind_rebind fun other hmem heq => hsubject other hmem (heq ▸ by simp [names]), hrestored] at hblank
  obtain ⟨t, outcome, inner, hwhole, hparts⟩ :=
    Step.run_buildWith_cons (h.start_slide title?) (h.start_adopt hs title?) hsound hblank steps result?
  refine ⟨t, (.plain (.ok (v.present (.node made.2))) (Log.visible s.logger.level? [])), blanked, outcome, inner, rfl,
    hwhole, ?_⟩
  rw [Parts.addSlide, Step.runUntilFault_cons_of_sound _ (by rw [hmake]; rfl), hmake, Step.runUntilFault_singleton,
    hparts]

end

lemma run_enterHeader (h : p.Opened j d s) {subject? : Option String} {steps : List Step}
    (hend : p.Opened j d (Step.runUntilFault steps (s.bind subject? (.node d.header))).1) (result? : Option String) :
    ∃ t named outcome inner,
      (Step.buildWith (.head p.deck) subject? steps result?).run s = (t, .nested outcome inner) ∧
      Step.runUntilFault (p.enterHeader subject? steps result?) s = (t, [.nested outcome (inner ++ named)]) := by
  obtain ⟨named, hsound, hnamed⟩ := p.run_naming hend.header result?
  rw [Parts.enterHeader, Step.runUntilFault_singleton, Step.run, h.start_head, within_run h.header rfl,
    Step.runUntilFault_append]
  simp only
  cases hfault : Answer.firstFault? (Step.runUntilFault steps (s.bind subject? (.node d.header))).2 with
  | some fault => exact ⟨_, [], _, _, rfl, by simp [hfault]⟩
  | none =>
    simp only [hnamed, Answer.firstFault?, List.findSome?_append] at hfault hsound ⊢
    simp only [hfault, hsound]
    exact ⟨_, named, _, _, rfl, rfl⟩

lemma run_detour (h : p.Opened j d s) (hs : s.Reachable) {construction : Construction} {detour : Detour}
    (hdetour : construction.detour? p = some detour) {subject? : Option String}
    (hsubject : ∀ name ∈ subject?, name ∉ p.names) (steps : List Step)
    (hend : ∀ t x, construction.start s = .ok (t, x) →
      p.Opened j d (Step.runUntilFault steps (t.bind subject? x.subject)).1) (result? : Option String) :
    ∃ t outcome inner answers,
      (Step.buildWith construction subject? steps result?).run s = (t, .nested outcome inner) ∧
      Step.runUntilFault (detour.steps p subject? steps result?) s = (t, answers) ∧
      detour.Answers outcome inner answers ∧ Answer.firstFault? answers = (Answer.nested outcome inner).fault? := by
  have hlast (outcome : Except Fault Value) (inner inner' : List Answer) :
      Answer.firstFault? [.nested outcome inner'] = (Answer.nested outcome inner).fault? :=
    Answer.firstFault?_singleton _
  rw [Construction.detour?.eq_def] at hdetour
  split at hdetour
  · split at hdetour
    · next hon =>
      cases hdetour
      subst hon
      obtain ⟨t, made, blanked, outcome, inner, hsound, hwhole, hparts⟩ := h.run_addSlide hs _ hsubject steps result?
      refine ⟨t, outcome, inner, _, hwhole, hparts, ⟨made, blanked, rfl⟩, ?_⟩
      rw [Answer.firstFault?, List.findSome?_cons, hsound]
      exact hlast outcome inner _
    · cases hdetour
  · split at hdetour
    · next hon =>
      cases hdetour
      subst hon
      obtain ⟨t, named, outcome, inner, hwhole, hparts⟩ := h.run_enterHeader (hend _ _ h.start_head) result?
      exact ⟨t, outcome, inner, _, hwhole, hparts, ⟨named, rfl⟩, hlast outcome inner _⟩
    · cases hdetour
  · cases hdetour

end Parts.Opened

lemma Detour.runAll_steps (p : Parts) (detour : Detour) (subject? : Option String) (steps : List Step)
    (result? : Option String) (s : Session) :
    runAll (detour.steps p subject? steps result?) s =
      Step.runUntilFault (detour.steps p subject? steps result?) s := by
  cases detour with
  | slide title? =>
    rw [Detour.steps, Parts.addSlide, Step.runUntilFault_cons_of_sound _ rfl, Step.runUntilFault_singleton]
    rfl
  | head =>
    rw [Detour.steps, Parts.enterHeader, Step.runUntilFault_singleton]
    rfl

lemma Step.runAll_onParts (p : Parts) (step : Step) (s : Session) :
    runAll (step.onParts p) s = runUntilFault (step.onParts p) s := by
  have hone (step : Step) : runAll [step] s = runUntilFault [step] s := by
    rw [runUntilFault_singleton]
    rfl
  cases step with
  | act action result? => exact hone _
  | within on subject? steps => exact hone _
  | build construction result? =>
    rw [onParts]
    split
    · exact Detour.runAll_steps ..
    · exact hone _
  | buildWith construction subject? steps result? =>
    rw [onParts]
    split
    · exact Detour.runAll_steps ..
    · exact hone _

lemma Step.AllAlike.nil (p : Parts) (steps : List Step) : Step.AllAlike p steps [] [] := by
  cases steps with
  | nil => exact ⟨rfl, rfl⟩
  | cons step rest => exact .inl ⟨rfl, rfl⟩

def Step.Forwards (p : Parts) (j : ℕ) (d : Deck) (step : Step) (s : Session) : Prop :=
  let whole := step.run s
  let parts := runUntilFault (step.onParts p) s
  parts.1 = whole.1 ∧ step.Alike p whole.2 parts.2 ∧ Answer.firstFault? parts.2 = whole.2.fault? ∧ p.Opened j d whole.1

def Step.AllForward (p : Parts) (j : ℕ) (d : Deck) (steps : List Step) (s : Session) : Prop :=
  let whole := runUntilFault steps s
  let parts := runUntilFault (allOnParts p steps) s
  parts.1 = whole.1 ∧ AllAlike p steps whole.2 parts.2 ∧
    Answer.firstFault? parts.2 = Answer.firstFault? whole.2 ∧ p.Opened j d whole.1

section

variable {p : Parts} {j : ℕ} {d : Deck} {s : Session}

lemma Step.AllForward.cons {step : Step} {rest : List Step} (h : step.Forwards p j d s)
    (hrest : (step.run s).2.fault? = none → AllForward p j d rest (step.run s).1) :
    AllForward p j d (step :: rest) s := by
  obtain ⟨hend, halike, hfault, hopened⟩ := h
  rw [AllForward, allOnParts, runUntilFault_append, hfault]
  cases hsound : (step.run s).2.fault? with
  | some fault =>
    rw [runUntilFault_cons_of_fault _ hsound]
    refine ⟨hend, .inr ⟨_, _, _, [], rfl, (List.append_nil _).symm, halike, .nil p rest⟩, ?_, hopened⟩
    rw [hfault, Answer.firstFault?_singleton]
  | none =>
    obtain ⟨hran, hanswers, hafter, hopened⟩ := hrest hsound
    rw [runUntilFault_cons_of_sound _ hsound, hend]
    refine ⟨hran, .inr ⟨_, _, _, _, rfl, rfl, halike, hanswers⟩, ?_, hopened⟩
    simp only [Answer.firstFault?, List.findSome?_append, List.findSome?_cons, hsound] at hfault hafter ⊢
    rw [hfault, hafter]
    rfl

section

variable (h : p.Opened j d s)

include h

lemma Parts.Opened.forwards_within {on : String} {subject? : Option String} {steps : List Step}
    (hfits : (Step.within on subject? steps).Fits p)
    (hinner : ∀ n, s.lookup on = .ok (.node n) → p.Opened j d (s.bind subject? (.node n)) →
      Step.AllForward p j d steps (s.bind subject? (.node n))) :
    (Step.within on subject? steps).Forwards p j d s := by
  have hinner (n : NodeId) (hon : s.lookup on = .ok (.node n)) :=
    hinner n hon (h.bind (by simpa [Step.bindings] using hfits.binds) (.node n))
  obtain ⟨hend, hanswers⟩ := Step.run_within_congr on (q := Step.AllAlike p steps) (.nil p steps) fun n hon => by
    obtain ⟨hend, hanswers, hfault, -⟩ := hinner n hon
    exact ⟨hend, hanswers, hfault⟩
  rw [Step.Forwards, Step.onParts, Step.runUntilFault_singleton]
  refine ⟨hend, ⟨_, rfl, hanswers⟩, ?_, h.run_within fun n hon => (hinner n hon).2.2.2⟩
  obtain ⟨outcome, inner, inner', ha, hb, -⟩ := hanswers
  rw [Answer.firstFault?_singleton, ha, hb]
  rfl

variable (hs : s.Reachable)

include hs

lemma Parts.Opened.forwards_act {action : Action} {result? : Option String}
    (hfits : (Step.act action result?).Fits p) : (Step.act action result?).Forwards p j d s := by
  have hrun := h.run_onParts hs hfits.forwarded
  rw [Step.Forwards, Step.onParts, Step.runUntilFault_singleton, Step.run, Step.run, hrun]
  exact ⟨rfl, rfl, Answer.firstFault?_singleton _,
    (h.act hs action).answer (by simpa [Step.bindings] using hfits.binds) s⟩

lemma Parts.Opened.forwards_build {construction : Construction} {result? : Option String}
    (hfits : (Step.build construction result?).Fits p) : (Step.build construction result?).Forwards p j d s := by
  have hopened : p.Opened j d ((Step.build construction result?).run s).1 := by
    rw [Step.run]
    exact (h.run_construction hs construction).answer (by simpa [Step.bindings] using hfits.binds) s
  cases hdetour : construction.detour? p with
  | some detour =>
    obtain ⟨t, outcome, inner, answers, hwhole, hparts, halike, hfault⟩ := h.run_detour hs hdetour
      (fun _ h => (Option.not_mem_none _ h).elim) [] (fun t x hstart => h.start hs hstart) result?
    obtain ⟨hbuild, rfl⟩ := Step.run_build hwhole
    simp only [Step.Forwards, Step.onParts, Step.Alike, hdetour, hparts, hbuild] at hopened ⊢
    exact ⟨trivial, ⟨outcome, rfl, halike⟩, hfault, hopened⟩
  | none =>
    have hrun : (Step.build (construction.onParts p) result?).run s = (Step.build construction result?).run s := by
      rw [Step.run, Step.run, Construction.run, Construction.run, h.start_onParts hs hdetour hfits.forwarded]
    simp only [Step.Forwards, Step.onParts, Step.Alike, hdetour, Step.runUntilFault_singleton, hrun]
    exact ⟨trivial, trivial, Answer.firstFault?_singleton _, hopened⟩

lemma Parts.Opened.forwards_buildWith {construction : Construction} {subject? result? : Option String}
    {steps : List Step} (hfits : (Step.buildWith construction subject? steps result?).Fits p)
    (hinner : ∀ t x, construction.start s = .ok (t, x) → p.Opened j d (t.bind subject? x.subject) →
      Step.AllForward p j d steps (t.bind subject? x.subject)) :
    (Step.buildWith construction subject? steps result?).Forwards p j d s := by
  have hsubject : ∀ name ∈ subject?, name ∉ p.names :=
    fun name hname => hfits.binds name (by simp_all [Step.bindings])
  have hresult : ∀ name ∈ result?, name ∉ p.names :=
    fun name hname => hfits.binds name (by simp_all [Step.bindings])
  have hinner (t : Session) (x : Pending) (hstart : construction.start s = .ok (t, x)) :=
    hinner t x hstart ((h.start hs hstart).bind hsubject x.subject)
  have hopened : p.Opened j d ((Step.buildWith construction subject? steps result?).run s).1 :=
    h.run_buildWith hresult fun t x hstart => (hinner t x hstart).2.2.2
  have hcongr {other : Construction} (hstart : other.start s = construction.start s) :=
    Step.run_buildWith_congr hstart (q := Step.AllAlike p steps) (fun t x hbegun => by
      obtain ⟨hend, hanswers, hfault, -⟩ := hinner t x hbegun
      exact ⟨hend, hanswers, hfault⟩) result?
  -- a detour is taken with the inner steps on the parts already, and these come to the same as the inner steps
  cases hdetour : construction.detour? p with
  | some detour =>
    obtain ⟨t, outcome, inner, answers, hwhole, hparts, halike, hfault⟩ := h.run_detour hs hdetour hsubject
      (Step.allOnParts p steps) (fun t x hstart => by
        obtain ⟨hend, -, -, hran⟩ := hinner t x hstart
        rwa [hend]) result?
    obtain ⟨hend, hanswers⟩ := hcongr rfl
    simp only [hwhole] at hend hanswers
    obtain ⟨fault, -, habsurd⟩ | ⟨outcome', inner', _, hnested, heq, hanswers⟩ := hanswers
    · cases habsurd
    · cases heq
      simp only [Step.Forwards, Step.onParts, Step.Alike, hdetour, hparts, hnested]
      exact ⟨hend, ⟨outcome, inner', inner, rfl, halike, hanswers⟩, by rw [hfault]; rfl, hopened⟩
  | none =>
    obtain ⟨hend, hanswers⟩ := hcongr (h.start_onParts hs hdetour hfits.forwarded)
    simp only [Step.Forwards, Step.onParts, Step.Alike, hdetour, Step.runUntilFault_singleton]
    refine ⟨hend, ⟨_, rfl, hanswers⟩, ?_, hopened⟩
    rw [Answer.firstFault?_singleton]
    obtain ⟨fault, ha, hb⟩ | ⟨outcome, inner, inner', ha, hb, -⟩ := hanswers
    · rw [ha, hb]
    · rw [ha, hb]
      rfl

end

mutual

theorem Step.run_onParts : ∀ (step : Step) {s : Session}, s.Reachable → p.Opened j d s →
    step.Everywhere (Step.Fits p) → step.Forwards p j d s
  | .act _ _, _, hs, h, hfits => h.forwards_act hs hfits
  | .build _ _, _, hs, h, hfits => h.forwards_build hs hfits
  | .buildWith _ subject? steps _, _, hs, h, hfits => h.forwards_buildWith hs hfits.1 fun _ _ hstart hopened =>
    Step.runUntilFault_onParts steps (hs.start hstart subject?) hopened hfits.2
  | .within _ subject? steps, _, hs, h, hfits => h.forwards_within hfits.1 fun _ hon hopened =>
    Step.runUntilFault_onParts steps (hs.enter hon subject?) hopened hfits.2

theorem Step.runUntilFault_onParts : ∀ (steps : List Step) {s : Session}, s.Reachable → p.Opened j d s →
    Step.AllEverywhere (Step.Fits p) steps → Step.AllForward p j d steps s
  | [], _, _, h, _ => ⟨rfl, ⟨rfl, rfl⟩, rfl, h⟩
  | step :: rest, _, hs, h, hfits => by
    have hstep := Step.run_onParts step hs h hfits.1
    exact .cons hstep fun _ => Step.runUntilFault_onParts rest (hs.run step) hstep.2.2.2 hfits.2

end

theorem runAll_onParts (steps : List Step) (hs : s.Reachable) (h : p.Opened j d s)
    (hfits : Step.AllEverywhere (Step.Fits p) steps) :
    (runAll (Step.allOnParts p steps) s).1 = (runAll steps s).1 ∧
      Step.AllAlike p steps (runAll steps s).2 (runAll (Step.allOnParts p steps) s).2 ∧
      p.Opened j d (runAll steps s).1 := by
  induction steps generalizing s with
  | nil => exact ⟨rfl, ⟨rfl, rfl⟩, h⟩
  | cons step rest ih =>
    obtain ⟨hend, hanswer, -, hopened⟩ := Step.run_onParts step hs h hfits.1
    obtain ⟨hran, hanswers, hopened⟩ := ih (hs.run step) hopened hfits.2
    rw [Step.allOnParts, runAll_append, Step.runAll_onParts, hend, runAll_cons]
    exact ⟨hran, .inr ⟨_, _, _, _, rfl, rfl, hanswer, hanswers⟩, hopened⟩

end

end SlideDeck.Script
