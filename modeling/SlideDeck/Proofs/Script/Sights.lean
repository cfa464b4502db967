import SlideDeck.Proofs.Script.Looking
import SlideDeck.Proofs.Script.WellFormed

/-! What the answer to a question names: a value, or something that the entity asked about has. -/

namespace SlideDeck.Script.Session

inductive Sees (s : Session) : Entity → Entity → Prop
  | value (e : Entity) (v : Value) : Sees s e (.value v)
  | kind (e : Entity) (k : Kind) : Sees s e (.object (.kind k))
  | parent {n p : NodeId} (h : s.store.parent? n = some p) : Sees s (.object (.node n)) (.object (.node p))
  | listing {n listing : NodeId} {title language : String}
      (hcode : (s.store.node n).content = .code title language listing) :
      Sees s (.object (.node n)) (.object (.node listing))
  | children (n : NodeId) (form : Listing) : Sees s (.object (.node n)) (.nodes form (s.store.children n))
  | members (form : Listing) (members : List NodeId) : Sees s (.nodes form members) (.nodes .list members)
  | arguments (n : NodeId) : Sees s (.object (.node n)) (.object (.arguments (.ofNode n)))
  | partOfNode (n : NodeId) (part : Part) : Sees s (.object (.node n)) (.part (.ofNode n) part)
  | part (a : ArgumentsRef) (part : Part) : Sees s (.object (.arguments a)) (.part a part)
  | settings {i : Nat} {d : Deck} (hd : s.workspace.deck? i = some d) :
      Sees s (.object (.deck i)) (.object (.settings d.settings))
  | tree {i : Nat} {d : Deck} {n : NodeId} (hd : s.workspace.deck? i = some d)
      (hn : n ∈ [d.document, d.preamble, d.header]) : Sees s (.object (.deck i)) (.object (.node n))

variable {s : Session} {e x : Entity}

lemma sees_of_nodeField? {n : NodeId} {name : String} (h : s.nodeField? n name = some x) :
    s.Sees (.object (.node n)) x := by
  simp only [nodeField?] at h
  split at h
  · cases h
    exact .kind _ _
  · cases hp : (s.store.node n).parent? with
    | none =>
      rw [hp] at h
      cases h
      exact .value _ _
    | some p =>
      rw [hp] at h
      cases h
      exact .parent hp
  · next hcode =>
    cases h
    exact .listing hcode
  · split at h <;> cases h
    exact .children n _
  · split at h <;> cases h
    exact .arguments n
  · split at h <;> cases h
    exact .partOfNode n _
  · split at h <;> cases h
    exact .partOfNode n _
  · obtain ⟨a, -, rfl⟩ := Option.map_eq_some_iff.mp h
    exact .value _ _

lemma sees_of_deckField? {i : Nat} {d : Deck} (hd : s.workspace.deck? i = some d) {name : String}
    (h : deckField? d name = some x) : s.Sees (.object (.deck i)) x := by
  rw [deckField?.eq_def] at h
  split at h <;> cases h
  · exact .value _ _
  · exact .settings hd
  · exact .tree hd (by simp)
  · exact .tree hd (by simp)
  · exact .tree hd (by simp)

lemma sees_of_ownField? {o : Object} {name : String} (h : s.ownField? o name = some x) : s.Sees (.object o) x := by
  cases o with
  | node n => exact sees_of_nodeField? h
  | arguments a =>
    simp only [ownField?, argumentsField?] at h
    split at h <;> cases h
    · exact .part a _
    · exact .part a _
    · exact .value _ _
  | deck i =>
    obtain ⟨d, hd, h⟩ := Option.bind_eq_some_iff.mp h
    exact sees_of_deckField? hd h
  | settings i => cases h
  | kind k =>
    simp only [ownField?] at h
    split at h <;> cases h <;> exact .value _ _

lemma sees_of_get {name : String} (h : s.get e name = .ok x) : s.Sees e x := by
  rw [get.eq_def] at h
  split at h
  · split at h
    · next value hfield =>
      cases h
      rcases Option.or_eq_some_iff.mp hfield with hmark | ⟨-, hown⟩
      · obtain ⟨a, -, rfl⟩ := Option.map_eq_some_iff.mp hmark
        exact .value _ _
      · exact sees_of_ownField? hown
    · exact (missing_ne_ok _ _ _ _ h).elim
  · split at h
    · cases h
      exact .value _ _
    · exact (missing_ne_ok _ _ _ _ h).elim
  · exact (missing_ne_ok _ _ _ _ h).elim

lemma sees_of_members? (h : s.members? e = some x) : s.Sees e x := by
  rw [members?.eq_def] at h
  split at h
  · split at h <;> cases h
    exact .children _ _
  all_goals first | (cases h; exact .value _ _) | (cases h; exact .members _ _) | cases h

lemma value_of_search {store : Store} {label : String} {n : NodeId}
    (h : (match Kind.ofLabel? label with
      | none => .error (.unknownKind label)
      | some kind =>
        match store.has? kind n with
        | some found => .ok (.atom (.bool found))
        | none => .error .unending : Except Fault Entity) = .ok x) : ∃ v, x = .value v := by
  split at h
  · cases h
  · split at h <;> cases h
    exact ⟨_, rfl⟩

lemma value_of_has {label : String} (h : s.has e label = .ok x) : ∃ v, x = .value v := by
  simp only [Session.has.eq_def] at h
  split at h
  · exact value_of_search h
  · split at h
    · exact value_of_search h
    · exact (missing_ne_ok _ _ _ _ h).elim
  · exact (missing_ne_ok _ _ _ _ h).elim

lemma value_of_account (h : s.account e = .ok x) : ∃ v, x = .value v := by
  rw [account.eq_def] at h
  split at h
  · split at h <;> cases h
    exact ⟨_, rfl⟩
  · cases h
    exact ⟨_, rfl⟩
  · obtain ⟨a, -, h⟩ := bind_eq_ok_iff.mp h
    exact (missing_ne_ok _ _ _ _ h).elim

lemma value_of_ofRendering {r : Rendering} (h : (Sight.ofRendering r).outcome = .ok x) : ∃ v, x = .value v := by
  cases hr : r.outcome with
  | error cause => simp [Sight.ofRendering, hr, Except.map, Except.mapError] at h
  | ok text =>
    simp only [Sight.ofRendering, hr, Except.map, Except.mapError, Except.ok.injEq] at h
    exact ⟨_, h.symm⟩

lemma value_of_write {step : String} (h : (s.write e step).outcome = .ok x) : ∃ v, x = .value v := by
  rw [write_eq] at h
  split at h
  · exact value_of_ofRendering h
  · split at h
    · exact value_of_ofRendering h
    · exact (missing_ne_ok _ _ _ _ h).elim
  · exact (missing_ne_ok _ _ _ _ h).elim

lemma value_of_print (h : (s.print e).outcome = .ok x) : ∃ v, x = .value v := by
  rw [print_eq] at h
  split at h
  · exact value_of_write h
  · exact value_of_write h
  all_goals
    cases h
    exact ⟨_, rfl⟩

lemma eq_some_of_ofOption {f : Fault} {o : Option Entity} (h : (Sight.ofOption f o).outcome = .ok x) : o = some x := by
  cases o with
  | none => cases h
  | some y =>
    cases h
    rfl

lemma sees_of_look {question : Look} (h : (s.look e question).outcome = .ok x) : s.Sees e x := by
  have hvalue : (∃ v, x = .value v) → s.Sees e x := by
    rintro ⟨v, rfl⟩
    exact .value e v
  cases question with
  | has label => exact hvalue (value_of_has h)
  | field name => exact sees_of_get h
  | count =>
    obtain ⟨n, -, rfl⟩ := Option.map_eq_some_iff.mp (eq_some_of_ofOption h)
    exact .value _ _
  | list => exact sees_of_members? (eq_some_of_ofOption h)
  | dump => exact hvalue (value_of_account h)
  | describe =>
    cases h
    exact .value _ _
  | equal other =>
    obtain ⟨f, -, h⟩ := bind_eq_ok_iff.mp h
    cases h
    exact .value _ _
  | print => exact hvalue (value_of_print h)
  | write step? => exact hvalue (value_of_write h)

lemma Sees.within (h : s.Sees e x) (hs : s.WellFormed) : x.Within s.store := by
  cases h with
  | parent hp => exact hs.store.parent_lt_size hp
  | @listing n listing _ _ hcode =>
    exact Store.lt_size_of_parent? _ _ (hs.store.listing n listing (by rw [hcode]; rfl)).1
  | tree hd hn =>
    have hw := hs.deck? hd
    simp only [List.mem_cons, List.not_mem_nil, or_false] at hn
    rcases hn with rfl | rfl | rfl
    · exact hw.document.lt_size
    · exact hw.preamble.lt_size
    · exact hw.header.lt_size
  | _ => trivial

end SlideDeck.Script.Session
