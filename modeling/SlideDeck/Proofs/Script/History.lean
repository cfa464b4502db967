import SlideDeck.Proofs.Script.DeckPlanting

/-! The history of a step: what the calls that it completes attach, in the order in which they are completed.
A call with steps inside is completed after these, and a call that fails is not completed. -/

namespace SlideDeck.Script

namespace Session

def deckAttachments (s : Session) (outlineTitle? : Option String) (source : SettingsSource) :
    List Attachment :=
  match s.takeSettings source with
  | .error _ => []
  | .ok (t, place) =>
    match (t.workspace.settingsAt place).preamble with
    | .error _ => []
    | .ok plan =>
      plantingAttachments (s.store.size + 2)
        (Deck.preamblePlantings (s.store.size + 1) plan outlineTitle?)

def changeAttachments (s : Session) (e : Entity) : Change → List Attachment
  | .headings name? sub? =>
    match s.containerFor e .headings with
    | .error _ => []
    | .ok c => plantingAttachments s.store.size (Draft.plantings c (headingDrafts name? sub?))
  | .setTitle title author date? subtitle? =>
    match e with
    | .object (.deck i) =>
      match s.workspace.deck? i with
      | some d =>
        plantingAttachments s.store.size (d.titlePlantings s.store.size title author date? subtitle?)
      | none => []
    | _ => []
  | .addSource _ =>
    match e with
    | .object (.node n) =>
      match (s.store.node n).content with
      | .code _ _ listing => [⟨listing, s.store.size, .last⟩]
      | _ => []
    | _ => []
  | .addOption _ | .setComment _ | .addSlideQualifier _ => []

end Session

def Action.attachments (s : Session) : Action → List Attachment
  | .make draft => draft.attachments s.store.size
  | .makeDeck outlineTitle? source => s.deckAttachments outlineTitle? source
  | .makeCodeHeader _ => [⟨s.store.size, s.store.size + 1, .last⟩]
  | .change on c =>
    match s.lookup on with
    | .error _ => []
    | .ok e => s.changeAttachments e c
  | .makeArguments _ | .look _ _ | .assign _ _ _ | .assignSetting _ _ _ | .pushArgument _ _ | .fail _
  | .load _ _ | .setUpLog _ _ | .unknown _ _ => []

def Construction.attachments (s : Session) : Construction → List Attachment
  | .deck outlineTitle? source => s.deckAttachments outlineTitle? source
  | .child on builder =>
    match s.lookup on with
    | .error _ => []
    | .ok e =>
      match s.containerFor e builder.method with
      | .error _ => []
      | .ok c => (builder.draft (s.store.kind c)).attachments s.store.size
  | .adopt _ _ _ | .head _ => []

def Pending.attachments (s : Session) (p : Pending) : List Attachment :=
  match p.finish s with
  | .error _ => []
  | .ok _ => p.attachment?.toList

def Pending.attachmentsAfter (p : Pending) (ran : Session × List Answer) : List Attachment :=
  match Answer.firstFault? ran.2 with
  | some _ => []
  | none => p.attachments ran.1

mutual

def Step.history : Step → Session → List Attachment
  | .act action _, s => action.attachments s
  | .build construction _, s =>
    match construction.start s with
    | .error _ => []
    | .ok (t, p) => construction.attachments s ++ p.attachments t
  | .buildWith construction subject? steps _, s =>
    match construction.start s with
    | .error _ => []
    | .ok (t, p) =>
      let begun := t.bind subject? p.subject
      construction.attachments s ++ Step.historyUntilFault steps begun ++
        p.attachmentsAfter (Step.runUntilFault steps begun)
  | .within on subject? steps, s =>
    match s.lookup on with
    | .ok (.object (.node n)) => Step.historyUntilFault steps (s.bind subject? (.node n))
    | _ => []

def Step.historyUntilFault : List Step → Session → List Attachment
  | [], _ => []
  | step :: rest, s =>
    step.history s ++
      match (step.run s).2.fault? with
      | some _ => []
      | none => Step.historyUntilFault rest (step.run s).1

end

namespace Session

variable {s t : Session}

lemma deckAttachments_of_error {outlineTitle? : Option String} {source : SettingsSource} {fault : Fault}
    (h : s.makeDeck outlineTitle? source = .error fault) : s.deckAttachments outlineTitle? source = [] := by
  rw [deckAttachments]
  cases htake : s.takeSettings source with
  | error cause => rfl
  | ok taken =>
    obtain ⟨t, place⟩ := taken
    cases hplan : (t.workspace.settingsAt place).preamble with
    | error cause => simp [hplan]
    | ok plan =>
      simp [makeDeck, htake, Workspace.addDeck, Deck.build, hplan, Bind.bind, Except.bind, pure,
        Except.pure] at h

lemma receives_makeDeck {outlineTitle? : Option String} {source : SettingsSource} {e : Entity}
    (h : s.makeDeck outlineTitle? source = .ok (t, e)) :
    Receives s.store (s.deckAttachments outlineTitle? source) t.store := by
  obtain ⟨u, place, store, d, htake, hbuild, rfl, -⟩ := exists_build_of_makeDeck h
  have hshape := (alters_takeSettings htake).shape
  obtain ⟨plan, hplan, h⟩ := Deck.receives_build hbuild
  simp only [deckAttachments, htake, hplan]
  rw [hshape.size] at h
  exact (Receives.of_sameShape hshape).trans h

lemma changeAttachments_of_error {e : Entity} {c : Change} {fault : Fault}
    (h : s.change e c = .error fault) : s.changeAttachments e c = [] := by
  cases c with
  | headings name? sub? =>
    rw [changeAttachments]
    cases hc : s.containerFor e .headings with
    | error cause => rfl
    | ok c => simp [change, Change.method, hc, Bind.bind, Except.bind] at h
  | setTitle title author date? subtitle? =>
    simp only [changeAttachments]
    split
    · next i =>
      cases hd : s.workspace.deck? i with
      | none => rfl
      | some d => simp [change, hd] at h
    · rfl
  | addSource source =>
    simp only [changeAttachments]
    split
    · next n =>
      cases hcontent : (s.store.node n).content with
      | code title language listing => simp [change, hcontent] at h
      | _ => rfl
    · rfl
  | _ => rfl

lemma receives_change (hs : s.WellFormed) {e x : Entity} (he : e.Within s.store) {c : Change}
    (h : s.change e c = .ok (t, x)) : Receives s.store (s.changeAttachments e c) t.store := by
  cases changes h with
  | headings hc =>
    have hcontainer := hs.containerFor he (fun kind hk => by simpa [Method.isOf] using hk) hc
    simp only [changeAttachments, hc]
    exact s.store.receives_createAllIn hcontainer.lt_size _
  | setTitle hd =>
    simp only [changeAttachments, hd]
    exact Deck.receives_setTitle (hs.deck? hd) _ _ _ _
  | addOption h => exact .of_sameShape (alters_changeArguments he h).1.shape
  | setComment h => exact .of_sameShape (alters_changeArguments he h).1.shape
  | addSlideQualifier => exact .of_sameShape (Store.sameShape_modify _ _ ⟨rfl, rfl, rfl, rfl⟩)
  | @addSource n listing title language source hcode =>
    simp only [changeAttachments, hcode]
    exact s.store.receives_createAllIn (hs.listing_container hcode).lt_size [.raw (Text.trim source ++ "\n")]

end Session

lemma Action.attachments_of_error {s : Session} {action : Action} {fault : Fault}
    (h : (action.run s).outcome = .error fault) : action.attachments s = [] := by
  cases action with
  | make | makeCodeHeader => cases h
  | makeDeck outlineTitle? source => exact Session.deckAttachments_of_error (Effect.eq_error_of_ofResult h)
  | change on c =>
    have h := Effect.eq_error_of_ofResult h
    simp only [attachments]
    cases hon : s.lookup on with
    | error cause => rfl
    | ok e =>
      rw [hon] at h
      exact Session.changeAttachments_of_error h
  | _ => rfl

lemma Action.EndsIn.receives {s t : Session} (hs : s.WellFormed) {action : Action} {x : Entity}
    (h : action.EndsIn s t x) : Receives s.store (action.attachments s) t.store := by
  cases h with
  | make draft => exact s.store.receives_create draft
  | makeDeck h => exact Session.receives_makeDeck h
  | makeCodeHeader comment? =>
    let headed := (s.store.create .header).1
    have hsize : headed.size = s.store.size + 1 := Store.size_create _ _
    have hheader : s.store.size < headed.size := by
      rw [hsize]
      exact Nat.lt_succ_self _
    have h := (s.store.receives_create .header).trans
      (headed.receives_createAllIn hheader [.package listingName [] comment?])
    rw [hsize] at h
    exact h
  | change hon h =>
    simp only [attachments, hon]
    exact Session.receives_change hs (hs.lookup hon) h
  | assign hon h => exact .of_sameShape (Session.alters_set h).shape
  | assignSetting hon h => exact .of_sameShape (Session.alters_assignSetting h).shape
  | pushArgument hon ha => exact .of_sameShape (Session.alters_modifyArguments s _ _).shape
  | makeArguments | look | load | setUpLog => exact .refl s.store

lemma Action.receives_run {s : Session} (hs : s.WellFormed) (action : Action) :
    Receives s.store (action.attachments s) (action.run s).session.store := by
  cases houtcome : (action.run s).outcome with
  | error fault =>
    rw [session_run_of_error houtcome, attachments_of_error houtcome]
    exact .refl s.store
  | ok x => exact (endsIn rfl houtcome).receives hs

lemma Construction.receives_start {s t : Session} {construction : Construction} {p : Pending}
    (h : construction.start s = .ok (t, p)) :
    Receives s.store (construction.attachments s) t.store := by
  cases begins h with
  | deck hmake => exact Session.receives_makeDeck hmake
  | adopt | head => exact .refl s.store
  | child hon hc =>
    simp only [attachments, hon, hc]
    exact s.store.receives_create _

lemma Pending.receives_finish {s t : Session} {p : Pending} (hp : p.Within s.store)
    (h : p.finish s = .ok t) : Receives s.store p.attachment?.toList t.store := by
  have heq := Pending.finish_eq h
  cases ha : p.attachment? with
  | none =>
    rw [ha] at heq
    exact heq ▸ .refl s.store
  | some a =>
    rw [ha] at heq
    obtain ⟨hfree, rfl⟩ := heq
    exact .link a.place (Attachment.fits hp ha hfree).container.lt_size

section Run

variable {s : Session}

lemma Session.WellFormed.start (hs : s.WellFormed) {construction : Construction} {t : Session}
    {p : Pending} (h : construction.start s = .ok (t, p)) (subject? : Option String) :
    (t.bind subject? p.subject).WellFormed ∧ p.Within (t.bind subject? p.subject).store := by
  obtain ⟨hfollows, hwithin⟩ := Construction.start_follows hs h
  rw [Session.store_bind]
  exact ⟨(hfollows.wellFormed hs).bind subject? hwithin.1, hwithin⟩

lemma Step.buildWith_cases {construction : Construction} {t : Session} {p : Pending}
    (hstart : construction.start s = .ok (t, p)) (subject? result? : Option String) (steps : List Step) :
    let ran := Step.runUntilFault steps (t.bind subject? p.subject)
    let r := (Step.buildWith construction subject? steps result?).run s
    (∃ fault, r = (ran.1, .nested (.error fault) ran.2) ∧ p.attachmentsAfter ran = []) ∨
      ∃ u, p.finish ran.1 = .ok u ∧ r = ((u.conclude result? p.subject).1,
          .nested (.ok (u.conclude result? p.subject).2) ran.2) ∧
        p.attachmentsAfter ran = p.attachment?.toList := by
  intro ran r
  have hr : r = (Step.buildWith construction subject? steps result?).run s := rfl
  rw [Step.run, hstart] at hr
  cases hfault : Answer.firstFault? ran.2 with
  | some fault =>
    refine .inl ⟨fault, ?_, by simp only [Pending.attachmentsAfter, hfault]⟩
    simp only [ran] at hfault
    simp only [hr, hfault, ran]
  | none =>
    have hlast : p.attachmentsAfter ran = p.attachments ran.1 := by
      simp only [Pending.attachmentsAfter, hfault]
    simp only [ran] at hfault
    rw [hlast, Pending.attachments]
    cases hfinish : p.finish ran.1 with
    | error fault =>
      refine .inl ⟨fault, ?_, rfl⟩
      simp only [ran] at hfinish
      simp only [hr, hfault, hfinish, ran]
    | ok u =>
      refine .inr ⟨u, rfl, ?_, rfl⟩
      simp only [ran] at hfinish
      simp only [hr, hfault, hfinish, ran]

lemma Step.receives_end {construction : Construction} {t : Session} {p : Pending} (hs : s.WellFormed)
    (hstart : construction.start s = .ok (t, p)) (subject? result? : Option String) (steps : List Step) :
    let ran := Step.runUntilFault steps (t.bind subject? p.subject)
    Receives ran.1.store (p.attachmentsAfter ran)
      ((Step.buildWith construction subject? steps result?).run s).1.store := by
  intro ran
  rcases Step.buildWith_cases hstart subject? result? steps with
    ⟨fault, hr, hlast⟩ | ⟨u, hfinish, hr, hlast⟩
  · rw [hr, hlast]
    exact .refl ran.1.store
  -- what was there when the construction began is still there after the steps inside
  · obtain ⟨hbegun, hp⟩ := hs.start hstart subject?
    have hp' : p.Within ran.1.store := hp.grows (hbegun.grows_runUntilFault steps)
    rw [hr, hlast, Session.store_conclude]
    exact Pending.receives_finish hp' hfinish

end Run

-- By recursion on steps and on the steps inside them. A session stays well-formed along a run, which gives
-- each attachment a container that is there.
mutual

theorem Step.receives_run : ∀ (step : Step) (s : Session), s.WellFormed →
    Receives s.store (step.history s) (step.run s).1.store
  | .act action result?, s, hs => by
    rw [Step.run, Session.store_answer, Step.history]
    exact action.receives_run hs
  | .build construction result?, s, hs => by
    rw [Step.run, Session.store_answer, Step.history, Construction.run]
    cases hstart : construction.start s with
    | error fault => exact .refl s.store
    | ok begun =>
      obtain ⟨t, p⟩ := begun
      have h := Construction.receives_start hstart
      have hp := (Construction.start_follows hs hstart).2
      simp only
      cases hfinish : p.finish t with
      | error fault => simpa only [Pending.attachments, hfinish, List.append_nil] using h
      | ok u =>
        simp only [Pending.attachments, hfinish]
        exact h.trans (Pending.receives_finish hp hfinish)
  | .buildWith construction subject? steps result?, s, hs => by
    rw [Step.history]
    cases hstart : construction.start s with
    | error fault =>
      rw [Step.run, hstart]
      exact .refl s.store
    | ok begun =>
      obtain ⟨t, p⟩ := begun
      have h₁ := Construction.receives_start hstart
      rw [← Session.store_bind t subject? p.subject] at h₁
      have h₂ := Step.receives_runUntilFault steps (t.bind subject? p.subject)
        (hs.start hstart subject?).1
      exact (h₁.trans h₂).trans (Step.receives_end hs hstart subject? result? steps)
  | .within on subject? steps, s, hs => by
    rw [Step.history]
    split
    · next n hon =>
      have h := Step.receives_runUntilFault steps (s.bind subject? (.node n))
        (hs.bind subject? (hs.lookup hon))
      rw [Session.store_bind] at h
      simp only [Step.run, hon]
      split <;> exact h
    · next hno =>
      rw [Step.run]
      split
      · exact .refl s.store
      · next n hon => exact (hno n hon).elim
      · exact .refl s.store

theorem Step.receives_runUntilFault : ∀ (steps : List Step) (s : Session), s.WellFormed →
    Receives s.store (Step.historyUntilFault steps s) (Step.runUntilFault steps s).1.store
  | [], s, _ => by
    rw [Step.runUntilFault, Step.historyUntilFault]
    exact .refl s.store
  | step :: rest, s, hs => by
    have h := Step.receives_run step s hs
    rw [Step.runUntilFault, Step.historyUntilFault]
    cases hfault : (step.run s).2.fault? with
    | some fault => simpa only [hfault, List.append_nil] using h
    | none =>
      simp only [hfault]
      exact h.trans (Step.receives_runUntilFault rest (step.run s).1 (hs.run step))

end

end SlideDeck.Script
