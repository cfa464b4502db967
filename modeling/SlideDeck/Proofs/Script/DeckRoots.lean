import SlideDeck.Proofs.Script.Beside

/-! The preamble and the header of a presentation are two nodes, along every script. -/

namespace SlideDeck

lemma Deck.preamble_ne_header {s t : Store} {settings : LooseSettings} {place : ℕ} {outlineTitle? : Option String}
    {d : Deck} (h : build s settings place outlineTitle? = .ok (t, d)) : d.preamble ≠ d.header := by
  obtain ⟨plan, -, -, rfl⟩ := exists_of_build h
  -- the header is made when the preamble is there
  have hpreamble := (buildPreamble_edits (s.create (.environment "document" [])).1 plan outlineTitle?).2
  exact Nat.ne_of_lt hpreamble.lt_size

namespace Script

def Session.RootsApart (s : Session) : Prop := ∀ d ∈ s.workspace.decks, d.preamble ≠ d.header

namespace Session

variable {s t : Session} {e x : Entity}

lemma RootsApart.of_same (hs : s.RootsApart) (h : t.workspace.decks = s.workspace.decks) : t.RootsApart :=
  fun d hd => hs d (h ▸ hd)

lemma decks_withStore (s : Session) (store : Store) : (s.withStore store).workspace.decks = s.workspace.decks := rfl

lemma decks_modifyArguments (s : Session) (a : ArgumentsRef) (f : Arguments → Arguments) :
    (s.modifyArguments a f).workspace.decks = s.workspace.decks := by
  cases a <;> rfl

lemma decks_changeArguments {method : Method} {f : Arguments → Arguments}
    (h : s.changeArguments e method f = .ok (t, x)) : t.workspace.decks = s.workspace.decks := by
  obtain ⟨a, -, h⟩ := bind_eq_ok_iff.mp h
  cases h
  exact s.decks_modifyArguments a f

lemma decks_change {c : Change} (h : s.change e c = .ok (t, x)) : t.workspace.decks = s.workspace.decks := by
  cases changes h with
  | addOption h => exact decks_changeArguments h
  | setComment h => exact decks_changeArguments h
  | headings | setTitle | addSlideQualifier | addSource => exact s.decks_withStore _

lemma decks_assignSetting {field : String} {value : Datum} (h : s.assignSetting e field value = .ok t) :
    t.workspace.decks = s.workspace.decks := by
  obtain ⟨i, d, settings, -, -, -, rfl⟩ := exists_of_assignSetting h
  rfl

lemma RootsApart.makeDeck {outlineTitle? : Option String} {source : SettingsSource} (hs : s.RootsApart)
    (h : s.makeDeck outlineTitle? source = .ok (t, x)) : t.RootsApart := by
  obtain ⟨u, place, store, d, htake, hbuild, rfl, -⟩ := exists_build_of_makeDeck h
  have hu : u.RootsApart := hs.of_same (by rw [takeSettings_eq htake])
  intro e he
  rcases Array.mem_push.mp he with he | rfl
  · exact hu e he
  · exact Deck.preamble_ne_header hbuild

lemma RootsApart.setOutlineTitle (hs : s.RootsApart) (i : ℕ) (title : Atom) :
    (s.setOutlineTitle i title).RootsApart := by
  intro d hd
  obtain ⟨j, hj⟩ := Array.mem_iff_getElem?.mp hd
  simp only [Session.setOutlineTitle, Array.getElem?_modify] at hj
  split at hj
  · obtain ⟨d₀, hd₀, rfl⟩ := Option.map_eq_some_iff.mp hj
    exact hs d₀ (Array.mem_of_getElem? hd₀)
  · exact hs d (Array.mem_of_getElem? hj)

lemma RootsApart.set {name : String} {value : Atom} (hs : s.RootsApart) (h : s.set e name value = .ok t) :
    t.RootsApart := by
  obtain ⟨o, -, hassigns⟩ := exists_assigns h
  cases hassigns with
  | node | mark => exact hs.of_same rfl
  | comment a => exact hs.of_same (s.decks_modifyArguments a _)
  | outlineTitle i => exact hs.setOutlineTitle i value

end Session

section

variable {s t : Session}

lemma Action.run_rootsApart (hs : s.RootsApart) (action : Action) : (action.run s).session.RootsApart := by
  have hleads := action.leads s
  generalize (action.run s).session = t at hleads ⊢
  cases hleads with
  | makeDeck h => exact hs.makeDeck h
  | change hon h => exact hs.of_same (Session.decks_change h)
  | assign hon h => exact hs.set h
  | assignSetting hon h => exact hs.of_same (Session.decks_assignSetting h)
  | pushArgument hon ha => exact hs.of_same (s.decks_modifyArguments _ _)
  | stay | make | makeArguments | makeCodeHeader | load | setUpLog => exact hs.of_same rfl

lemma Construction.start_rootsApart {construction : Construction} {p : Pending} (hs : s.RootsApart)
    (h : construction.start s = .ok (t, p)) : t.RootsApart := by
  cases begins h with
  | deck hmake => exact hs.makeDeck hmake
  | child hon hc => exact hs.of_same rfl
  | adopt | head => exact hs

lemma Session.RootsApart.bind (hs : s.RootsApart) (name? : Option String) (e : Entity) :
    (s.bind name? e).RootsApart :=
  hs.of_same (by rw [Session.workspace_bind])

lemma Move.rootsApart {p q : Point} {a? : Option Attachment} (hp : p.session.RootsApart) (h : Move p a? q) :
    q.session.RootsApart := by
  cases h with
  | act s pending action result? =>
    have hran := action.run_rootsApart hp
    rw [Session.answer]
    split
    · exact hran.bind _ _
    · exact hran
  | start pending construction subject? hstart => exact (Construction.start_rootsApart hp hstart).bind _ _
  | enter pending subject? hon => exact hp.bind _ _
  | abandon s x pending => exact hp
  | complete pending result? hfinish =>
    have hfinish := Pending.finish_eq hfinish
    refine Session.RootsApart.bind (?_ : Session.RootsApart _) _ _
    split at hfinish
    · exact hfinish ▸ hp
    · exact hp.of_same (by rw [hfinish.2]; rfl)

end

theorem Session.Reachable.rootsApart {s : Session} (h : s.Reachable) : s.RootsApart := by
  obtain ⟨pending, hmoves⟩ := h
  have hreached : ∀ q : Point, Moves ⟨{}, []⟩ q → q.session.RootsApart := by
    intro q hq
    induction hq with
    | refl => simp [Session.RootsApart]
    | tail _ hmove ih =>
      obtain ⟨a?, hmove⟩ := hmove
      exact hmove.rootsApart ih
  exact hreached _ hmoves

end Script

end SlideDeck
