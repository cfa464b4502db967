import SlideDeck.Proofs.Script.Binding
import SlideDeck.Proofs.Script.Retaining
import SlideDeck.Proofs.Script.Sights
import SlideDeck.Proofs.Script.Tied
import SlideDeck.Proofs.Store.Twins

/-! Two sessions in which some objects have twins, and what single calls on twins come to. Where a call succeeds in
both sessions, twins stay twins, and what it makes and names are twins as well. -/

namespace SlideDeck

structure Pairing where
  node : NodeId → NodeId → Prop
  deck : ℕ → ℕ → Prop
  settings : ℕ → ℕ → Prop

namespace Pairing

structure Le (K K' : Pairing) : Prop where
  node : K.node ≤ K'.node
  deck : K.deck ≤ K'.deck
  settings : K.settings ≤ K'.settings

lemma Le.refl (K : Pairing) : K.Le K := ⟨le_refl _, le_refl _, le_refl _⟩

lemma Le.trans {K K' K'' : Pairing} (h : K.Le K') (h' : K'.Le K'') : K.Le K'' :=
  ⟨h.node.trans h'.node, h.deck.trans h'.deck, h.settings.trans h'.settings⟩

structure New (v w : Workspace) (K K' : Pairing) : Prop where
  node : NewPairs v.store.size w.store.size K.node K'.node
  deck : NewPairs v.decks.size w.decks.size K.deck K'.deck
  settings : NewPairs v.settings.size w.settings.size K.settings K'.settings

lemma New.le {v w : Workspace} {K K' : Pairing} (h : New v w K K') : K.Le K' := ⟨h.node.le, h.deck.le, h.settings.le⟩

lemma New.trans {v w v' w' : Workspace} {K K' K'' : Pairing} (h : New v w K K') (h' : New v' w' K' K'')
    (hv : v.Grows v') (hw : w.Grows w') : New v w K K'' where
  node := h.node.trans h'.node hv.store hw.store
  deck := h.deck.trans h'.deck hv.decks hw.decks
  settings := h.settings.trans h'.settings hv.settings hw.settings

end Pairing

inductive ArgumentsRef.Paired (K : Pairing) : ArgumentsRef → ArgumentsRef → Prop
  | ofNode {n m : NodeId} (h : K.node n m) : Paired K (.ofNode n) (.ofNode m)
  | free (i : ℕ) : Paired K (.free i) (.free i)

namespace LooseSettings

lemma WritesAlike.assign? {x y x' y' : LooseSettings} (h : x.WritesAlike y) {field : String} {value : Datum}
    (hx : x.assign? field value = some x') (hy : y.assign? field value = some y') : x'.WritesAlike y' := by
  obtain ⟨hindent, hcomment⟩ := h
  rw [LooseSettings.assign?.eq_def] at hx hy
  split at hx <;> cases hx <;> cases hy
  · exact ⟨hindent, hcomment⟩
  · exact ⟨hindent, hcomment⟩
  · exact ⟨rfl, hcomment⟩
  · exact ⟨hindent, hcomment⟩
  · exact ⟨hindent, rfl⟩

end LooseSettings

namespace Node

lemma assign?_bare (n : Node) (name : String) (value : Atom) :
    n.bare.assign? name value = (n.assign? name value).map bare := by
  have hstrip (m : Node) : ({ m with parent? := none, children := [] } : Node).assign? name value =
      (m.assign? name value).map fun k => { k with parent? := none, children := [] } := by
    simp only [assign?]
    split_ifs
    · rfl
    · rw [Option.map_map]
      rfl
    · rw [Option.map_map]
      rfl
  rw [bare, hstrip, assign?_rename, Option.map_map]
  rfl

lemma Twins.assign? {R : NodeId → NodeId → Prop} {matters : Prop} {x y : Node} (h : x.Twins R matters y) (name : String)
    (value : Atom) : Option.Rel (Node.Twins R matters) (x.assign? name value) (y.assign? name value) := by
  have hbare := congrArg (Node.assign? · name value) h.bare
  simp only [assign?_bare] at hbare
  cases hx : x.assign? name value with
  | none =>
    rw [hx] at hbare
    rw [Option.map_eq_none_iff.mp hbare]
    exact .none
  | some x' =>
    rw [hx] at hbare
    obtain ⟨y', hy, heq⟩ := Option.map_eq_some_iff.mp hbare
    rw [hy]
    exact .some (h.alter (sameShape_of_assign? hx) (sameShape_of_assign? hy) heq)

end Node

/-- How sessions are compared: by the children of the nodes in a region, by what the names stand for that are not put
aside, and by settings that are alike. -/
structure Comparison where
  inside : NodeId → Prop
  aside : List String
  alike : LooseSettings → LooseSettings → Prop
  alike_refl (x : LooseSettings) : alike x x
  alike_assign? {x y x' y' : LooseSettings} {field : String} {value : Datum} : alike x y →
    x.assign? field value = some x' → y.assign? field value = some y' → alike x' y'
  writesAlike {x y : LooseSettings} : alike x y → x.WritesAlike y

namespace Workspace

structure Twins (C : Comparison) (K : Pairing) (v w : Workspace) : Prop where
  store : v.store.Twins K.node C.inside w.store
  unique_deck : Relator.BiUnique K.deck
  deck {i j : ℕ} : K.deck i j → ∃ d e, v.deck? i = some d ∧ w.deck? j = some e ∧ d.Twins K.node e ∧
    K.settings d.settings e.settings
  unique_settings : Relator.BiUnique K.settings
  settings {i j : ℕ} : K.settings i j → i < v.settings.size ∧ j < w.settings.size ∧
    C.alike (v.settingsAt i) (w.settingsAt j)
  arguments : w.arguments = v.arguments

namespace Twins

variable {C : Comparison} {K : Pairing} {v w : Workspace} (h : v.Twins C K w)

include h

lemma deck_lt_size {i j : ℕ} (hij : K.deck i j) : i < v.decks.size ∧ j < w.decks.size := by
  obtain ⟨d, e, hd, he, -⟩ := h.deck hij
  exact ⟨(Array.getElem?_eq_some_iff.mp hd).1, (Array.getElem?_eq_some_iff.mp he).1⟩

lemma withStore {R : NodeId → NodeId → Prop} {a b : Store}
    (hstore : Store.LaterTwins K.node C.inside v.store w.store R a b) :
    Pairing.New v w K { K with node := R } ∧ Twins C { K with node := R } { v with store := a } { w with store := b } := by
  refine ⟨⟨hstore.pairs, .refl _ _ _, .refl _ _ _⟩, { h with store := hstore.twins, deck := fun hij => ?_ }⟩
  obtain ⟨d, e, hd, he, hde, hsettings⟩ := h.deck hij
  exact ⟨d, e, hd, he, hde.mono hstore.pairs.le, hsettings⟩

lemma addSettings (settings : Settings) : ∃ K', Pairing.New v w K K' ∧
    Twins C K' (v.addSettings settings).1 (w.addSettings settings).1 ∧
    K'.settings v.settings.size w.settings.size := by
  refine ⟨{ K with settings := Beside K.settings v.settings.size w.settings.size 1 },
    ⟨.refl _ _ _, .refl _ _ _, newPairs_beside _ _ _ _⟩, { h with
      deck := fun hij => ?_
      unique_settings := biUnique_beside h.unique_settings (fun i j hij => ?_) 1
      settings := fun {i j} hij => ?_ }, .inr ⟨0, Nat.one_pos, rfl, rfl⟩⟩
  · obtain ⟨d, e, hd, he, hde, hsettings⟩ := h.deck hij
    exact ⟨d, e, hd, he, hde, .inl hsettings⟩
  · obtain ⟨hi, hj, -⟩ := h.settings hij
    exact ⟨hi, hj⟩
  · simp only [Workspace.addSettings, Array.size_push, settingsAt, Array.getD_eq_getD_getElem?]
    obtain hij | ⟨k, hk, rfl, rfl⟩ := hij
    · obtain ⟨hi, hj, halike⟩ := h.settings hij
      rw [settingsAt, settingsAt, Array.getD_eq_getD_getElem?, Array.getD_eq_getD_getElem?,
        Array.getElem?_eq_getElem hi, Array.getElem?_eq_getElem hj] at halike
      rw [Array.getElem?_push_lt hi, Array.getElem?_push_lt hj]
      exact ⟨Nat.lt_succ_of_lt hi, Nat.lt_succ_of_lt hj, halike⟩
    · obtain rfl := Nat.lt_one_iff.mp hk
      simp only [Nat.add_zero, Array.getElem?_push_size]
      exact ⟨Nat.lt_succ_self _, Nat.lt_succ_self _, C.alike_refl _⟩

lemma pushDeck {d e : Deck} (hde : d.Twins K.node e) (hsettings : K.settings d.settings e.settings) :
    ∃ K', Pairing.New v w K K' ∧ Twins C K' { v with decks := v.decks.push d } { w with decks := w.decks.push e } ∧
      K'.deck v.decks.size w.decks.size := by
  refine ⟨{ K with deck := Beside K.deck v.decks.size w.decks.size 1 },
    ⟨.refl _ _ _, newPairs_beside _ _ _ _, .refl _ _ _⟩, { h with
      unique_deck := biUnique_beside h.unique_deck (fun _ _ => h.deck_lt_size) 1
      deck := fun {i j} hij => ?_ }, .inr ⟨0, Nat.one_pos, rfl, rfl⟩⟩
  simp only [deck?]
  obtain hij | ⟨k, hk, rfl, rfl⟩ := hij
  · obtain ⟨hi, hj⟩ := h.deck_lt_size hij
    obtain ⟨d', e', hd, he, hde, hsettings⟩ := h.deck hij
    rw [Array.getElem?_push_lt hi, Array.getElem?_push_lt hj, ← Array.getElem?_eq_getElem hi,
      ← Array.getElem?_eq_getElem hj]
    exact ⟨d', e', hd, he, hde, hsettings⟩
  · obtain rfl := Nat.lt_one_iff.mp hk
    simp only [Nat.add_zero, Array.getElem?_push_size]
    exact ⟨d, e, rfl, rfl, hde, hsettings⟩

lemma modifyArguments {a b : ArgumentsRef} (hab : a.Paired K b) (f : Arguments → Arguments) :
    Twins C K (v.modifyArguments f a) (w.modifyArguments f b) := by
  cases hab with
  | ofNode hnm => exact { h with store := h.store.modify hnm fun x y hxy => hxy.mapArguments f }
  | free i => exact { h with arguments := congrArg (Array.modify · i f) h.arguments }

lemma retitle {i j : ℕ} (hij : K.deck i j) (title : Atom) :
    Twins C K { v with decks := v.decks.modify i fun deck => { deck with outlineTitle := title } }
      { w with decks := w.decks.modify j fun deck => { deck with outlineTitle := title } } := by
  refine { h with deck := fun {p q} hpq => ?_ }
  obtain ⟨d, e, hd, he, hde, hsettings⟩ := h.deck hpq
  simp only [deck?] at hd he ⊢
  rw [Array.getElem?_modify, Array.getElem?_modify, hd, he]
  by_cases heq : i = p
  · subst heq
    obtain rfl := h.unique_deck.2 hij hpq
    rw [if_pos rfl, if_pos rfl]
    exact ⟨_, _, rfl, rfl, ⟨hde.document, hde.preamble, hde.header⟩, hsettings⟩
  · have hne : j ≠ q := by
      rintro rfl
      exact heq (h.unique_deck.1 hij hpq)
    rw [if_neg heq, if_neg hne]
    exact ⟨d, e, rfl, rfl, hde, hsettings⟩

lemma setSettings {i j : ℕ} (hij : K.settings i j) {x y : LooseSettings} (hxy : C.alike x y) :
    Twins C K { v with settings := v.settings.setIfInBounds i x }
      { w with settings := w.settings.setIfInBounds j y } := by
  refine { h with settings := fun {p q} hpq => ?_ }
  obtain ⟨hp, hq, halike⟩ := h.settings hpq
  rw [settingsAt_set v hp, settingsAt_set w hq, Array.size_setIfInBounds, Array.size_setIfInBounds]
  by_cases heq : i = p
  · subst heq
    rw [if_pos rfl, if_pos (h.unique_settings.2 hij hpq)]
    exact ⟨hp, hq, hxy⟩
  · have hne : j ≠ q := by
      rintro rfl
      exact heq (h.unique_settings.1 hij hpq)
    rw [if_neg heq, if_neg hne]
    exact ⟨hp, hq, halike⟩

end Twins

end Workspace

namespace Script

inductive Object.Paired (K : Pairing) : Object → Object → Prop
  | node {n m : NodeId} (h : K.node n m) : Paired K (.node n) (.node m)
  | arguments {a b : ArgumentsRef} (h : a.Paired K b) : Paired K (.arguments a) (.arguments b)
  | deck {i j : ℕ} (h : K.deck i j) : Paired K (.deck i) (.deck j)
  | settings {i j : ℕ} (h : K.settings i j) : Paired K (.settings i) (.settings j)
  | kind (k : Kind) : Paired K (.kind k) (.kind k)

def Entity.IsPlain : Entity → Prop
  | .object _ => False
  | _ => True

/-- Objects are twins. What is no object may differ. -/
inductive Entity.Paired (K : Pairing) : Entity → Entity → Prop
  | object {o o' : Object} (h : o.Paired K o') : Paired K (.object o) (.object o')
  | plain {e e' : Entity} (he : e.IsPlain) (he' : e'.IsPlain) : Paired K e e'

section

variable {K K' : Pairing}

lemma Object.Paired.mono {o o' : Object} (h : o.Paired K o') (hK : K.Le K') : o.Paired K' o' := by
  cases h with
  | node h => exact .node (hK.node _ _ h)
  | arguments h =>
    cases h with
    | ofNode h => exact .arguments (.ofNode (hK.node _ _ h))
    | free i => exact .arguments (.free i)
  | deck h => exact .deck (hK.deck _ _ h)
  | settings h => exact .settings (hK.settings _ _ h)
  | kind k => exact .kind k

lemma Entity.Paired.of_objects {o o' : Object} (h : (Entity.object o).Paired K (.object o')) : o.Paired K o' := by
  cases h with
  | object h => exact h
  | plain he _ => exact False.elim he

lemma Entity.Paired.mono {e e' : Entity} (h : e.Paired K e') (hK : K.Le K') : e.Paired K' e' := by
  cases h with
  | object h => exact .object (h.mono hK)
  | plain he he' => exact .plain he he'

lemma Entity.IsPlain.named {e : Entity} (he : e.IsPlain) (name? : Option String) : (e.named name?).IsPlain := by
  cases e with
  | object o => exact he
  | value v => cases v <;> trivial
  | _ => trivial

lemma Entity.Paired.named {e e' : Entity} (h : e.Paired K e') (name? : Option String) :
    (e.named name?).Paired K (e'.named name?) := by
  cases h with
  | object h => exact .object h
  | plain he he' => exact .plain (he.named name?) (he'.named name?)

lemma Object.biUnique_paired (hnode : Relator.BiUnique K.node) (hdeck : Relator.BiUnique K.deck)
    (hsettings : Relator.BiUnique K.settings) : Relator.BiUnique (Object.Paired K) := by
  constructor
  · intro o p o' h h'
    cases h with
    | node h => cases h' with | node h' => rw [hnode.1 h h']
    | arguments h =>
      cases h' with
      | arguments h' =>
        cases h with
        | ofNode h => cases h' with | ofNode h' => rw [hnode.1 h h']
        | free i => cases h'; rfl
    | deck h => cases h' with | deck h' => rw [hdeck.1 h h']
    | settings h => cases h' with | settings h' => rw [hsettings.1 h h']
    | kind k => cases h'; rfl
  · intro o o' p' h h'
    cases h with
    | node h => cases h' with | node h' => rw [hnode.2 h h']
    | arguments h =>
      cases h' with
      | arguments h' =>
        cases h with
        | ofNode h => cases h' with | ofNode h' => rw [hnode.2 h h']
        | free i => cases h'; rfl
    | deck h => cases h' with | deck h' => rw [hdeck.2 h h']
    | settings h => cases h' with | settings h' => rw [hsettings.2 h h']
    | kind k => cases h'; rfl

end

structure Pending.Paired (K : Pairing) (p q : Pending) : Prop where
  subject : p.subject.Paired K q.subject
  target? : Option.Rel (fun a b => K.node a.1 b.1 ∧ b.2 = a.2) p.target? q.target?

lemma Pending.Paired.mono {K K' : Pairing} {p q : Pending} (h : p.Paired K q) (hK : K.Le K') : p.Paired K' q :=
  ⟨h.subject.mono hK, relOption_mono (fun _ _ hab => ⟨hK.node _ _ hab.1, hab.2⟩) h.target?⟩

lemma Pending.Paired.attachment? {K : Pairing} {p q : Pending} (h : p.Paired K q) :
    Option.Rel (fun a b => K.node a.container b.container ∧ K.node a.node b.node ∧ b.place = a.place)
      p.attachment? q.attachment? := by
  obtain ⟨subject, target?⟩ := p
  obtain ⟨subject', target?'⟩ := q
  obtain ⟨hsubject, htarget⟩ := h
  cases hsubject with
  | object ho =>
    cases ho with
    | node hnm =>
      cases htarget with
      | none => exact .none
      | some hab => exact .some ⟨hab.1, hnm, hab.2⟩
    | _ => exact .none
  | plain he he' =>
    cases subject with
    | object o => exact False.elim he
    | _ =>
      cases subject' with
      | object o => exact False.elim he'
      | _ => exact .none

namespace Session

/-- If two sessions make a presentation each, and from settings that say different things about the preamble, then the
preamble of the first one is not in a region. -/
def BuildsOutside (inside : NodeId → Prop) (s t : Session) (outlineTitle? : Option String) (source : SettingsSource) :
    Prop :=
  ∀ u v d e, s.Builds outlineTitle? source u d → t.Builds outlineTitle? source v e →
    (v.workspace.settingsAt e.settings).preamble ≠ (u.workspace.settingsAt d.settings).preamble → ¬ inside d.preamble

structure Twins (C : Comparison) (K : Pairing) (s t : Session) : Prop where
  workspace : s.workspace.Twins C K t.workspace
  marks {o o' : Object} : o.Paired K o' → ∀ name, t.marked? o' name = s.marked? o name
  names {name : String} : name ∉ C.aside → Option.Rel (Entity.Paired K) (s.names.lookup name) (t.names.lookup name)

lemma marked?_mark (s : Session) (o p : Object) (name other : String) (value : Atom) :
    (s.mark o name value).marked? p other = if (p, other) = (o, name) then some value else s.marked? p other := by
  rw [marked?, mark, List.lookup_cons]
  split_ifs with heq
  · rw [heq, beq_self_eq_true]
  · rw [beq_false_of_ne heq, marked?]
    simp only
    induction s.marks with
    | nil => rfl
    | cons m rest ih =>
      by_cases hm : m.1 = (o, name)
      · rw [List.filter_cons_of_neg (by simp [hm]), List.lookup_cons, hm, beq_false_of_ne heq, ih]
      · rw [List.filter_cons_of_pos (by simp [hm]), List.lookup_cons, List.lookup_cons, ih]

lemma isPlain_of_nodeField? {s : Session} {n : NodeId} {name : String} {x : Entity}
    (hname : name ∉ ["kind", "parent", "minted", "arguments"]) (h : s.nodeField? n name = some x) : x.IsPlain := by
  simp only [List.mem_cons, List.not_mem_nil, or_false, not_or] at hname
  obtain ⟨hkind, hparent, hminted, harguments⟩ := hname
  simp only [nodeField?] at h
  split at h
  · exact (hkind rfl).elim
  · exact (hparent rfl).elim
  · exact (hminted rfl).elim
  · split at h <;> cases h
    trivial
  · exact (harguments rfl).elim
  · split at h <;> cases h
    trivial
  · split at h <;> cases h
    trivial
  · obtain ⟨a, -, rfl⟩ := Option.map_eq_some_iff.mp h
    trivial

lemma isPlain_of_get {s : Session} {e x : Entity} (he : e.IsPlain) {name : String} (h : s.get e name = .ok x) :
    x.IsPlain := by
  rw [get.eq_def] at h
  split at h
  · exact False.elim he
  · split at h
    · cases h
      trivial
    · exact (missing_ne_ok _ _ _ _ h).elim
  · exact (missing_ne_ok _ _ _ _ h).elim

lemma isPlain_of_look {s : Session} {e x : Entity} {question : Look} (hquestion : ∀ name, question ≠ .field name)
    (h : (s.look e question).outcome = .ok x) : x.IsPlain := by
  have hvalue : (∃ v, x = .value v) → x.IsPlain := by
    rintro ⟨v, rfl⟩
    trivial
  cases question with
  | field name => exact (hquestion name rfl).elim
  | has label => exact hvalue (value_of_has h)
  | count =>
    obtain ⟨n, -, rfl⟩ := Option.map_eq_some_iff.mp (eq_some_of_ofOption h)
    trivial
  | list =>
    have hmembers := eq_some_of_ofOption h
    rw [members?.eq_def] at hmembers
    split at hmembers
    · split at hmembers <;> cases hmembers
      trivial
    all_goals first | (cases hmembers; trivial) | cases hmembers
  | dump => exact hvalue (value_of_account h)
  | describe =>
    cases h
    trivial
  | equal other =>
    obtain ⟨f, -, h⟩ := bind_eq_ok_iff.mp h
    cases h
    trivial
  | print => exact hvalue (value_of_print h)
  | write step? => exact hvalue (value_of_write h)

lemma nodeField?_minted (s : Session) (n : NodeId) : s.nodeField? n "minted" =
    (((s.store.node n).content.listing?).map .node).or (((s.store.node n).field? "minted").map .atom) := by
  simp only [nodeField?]
  cases (s.store.node n).content <;> rfl

lemma cases_of_takeShared {s u : Session} {name : String} {i : ℕ} (h : s.takeSettings (.shared name) = .ok (u, i)) :
    (s.lookup name = .ok (.object (.settings i)) ∧ u = s) ∨
      (∃ e, s.lookup name = .ok e ∧ ∀ k, e ≠ .object (.settings k)) ∧ (u, i) = s.takeStandardSettings := by
  obtain ⟨e, he, h⟩ := bind_eq_ok_iff.mp h
  split at h
  · cases h
    exact .inl ⟨he, rfl⟩
  · next hne =>
    split at h
    · exact .inr ⟨⟨e, he, hne⟩, (Except.ok.inj h).symm⟩
    · exact (missing_ne_ok _ _ _ _ h).elim

namespace Twins

variable {C : Comparison} {K K' : Pairing} {s t u v : Session} {e e' x y : Entity} (h : s.Twins C K t)

include h

lemma biUnique_paired : Relator.BiUnique (Object.Paired K) :=
  Object.biUnique_paired h.workspace.store.unique h.workspace.unique_deck h.workspace.unique_settings

lemma kind {n m : NodeId} (hnm : K.node n m) : t.store.kind m = s.store.kind n := h.workspace.store.kind hnm

lemma node {n m : NodeId} (hnm : K.node n m) : (s.store.node n).Twins K.node (C.inside n) (t.store.node m) :=
  h.workspace.store.node hnm

lemma paired_of_lookup {name : String} (hname : name ∉ C.aside) (he : s.lookup name = .ok e)
    (he' : t.lookup name = .ok e') : e.Paired K e' := by
  have hpaired := h.names hname
  rw [lookup_eq_ok_iff.mp he, lookup_eq_ok_iff.mp he'] at hpaired
  exact Option.rel_some_some.mp hpaired

lemma bind (name? : Option String) (hx : x.Paired K y) : (s.bind name? x).Twins C K (t.bind name? y) := by
  cases name? with
  | none => exact h
  | some name =>
    refine { h with names := fun {other} hother => ?_ }
    by_cases heq : other = name
    · subst heq
      rw [Session.bind, Session.bind, lookup_bindName, lookup_bindName]
      exact .some hx
    · rw [Session.bind, Session.bind, lookup_bindName_of_ne _ _ heq, lookup_bindName_of_ne _ _ heq]
      exact h.names hother

lemma renew (hs : s.Bounded) (ht : t.Bounded) {v w : Workspace} (hnew : Pairing.New s.workspace t.workspace K K')
    (hvw : v.Twins C K' w) : Twins C K' { s with workspace := v } { t with workspace := w } where
  workspace := hvw
  marks {o o'} ho name := by
    have hold : o.Paired K o' ∨ ¬ o.Bound s.workspace ∧ ¬ o'.Bound t.workspace := by
      cases ho with
      | node hnm => exact (hnew.node.old_or_new hnm).imp .node fun hnew => ⟨hnew.1.not_gt, hnew.2.not_gt⟩
      | arguments hab =>
        cases hab with
        | ofNode hnm =>
          exact (hnew.node.old_or_new hnm).imp (.arguments <| .ofNode ·) fun hnew => ⟨hnew.1.not_gt, hnew.2.not_gt⟩
        | free i => exact .inl (.arguments (.free i))
      | deck hij => exact (hnew.deck.old_or_new hij).imp .deck fun hnew => ⟨hnew.1.not_gt, hnew.2.not_gt⟩
      | settings hij => exact (hnew.settings.old_or_new hij).imp .settings fun hnew => ⟨hnew.1.not_gt, hnew.2.not_gt⟩
      | kind k => exact .inl (.kind k)
    obtain hold | ⟨ho, ho'⟩ := hold
    · exact h.marks hold name
    · exact (ht.marked?_eq_none ho' name).trans (hs.marked?_eq_none ho name).symm
  names hname := relOption_mono (fun _ _ hx => hx.mono hnew.le) (h.names hname)

lemma mark {o o' : Object} (ho : o.Paired K o') (name : String) (value : Atom) :
    (s.mark o name value).Twins C K (t.mark o' name value) := by
  refine { h with marks := fun {p p'} hp other => ?_ }
  have hiff : (p', other) = (o', name) ↔ (p, other) = (o, name) := by
    rw [Prod.mk.injEq, Prod.mk.injEq]
    refine and_congr_left fun _ => ⟨?_, ?_⟩
    · rintro rfl
      exact h.biUnique_paired.1 hp ho
    · rintro rfl
      exact h.biUnique_paired.2 hp ho
  rw [marked?_mark, marked?_mark, h.marks hp]
  simp only [hiff]

lemma containerFor (he : e.Paired K e') {method : Method} {c c' : NodeId} (hc : s.containerFor e method = .ok c)
    (hc' : t.containerFor e' method = .ok c') : K.node c c' := by
  rw [Session.containerFor.eq_def] at hc hc'
  cases he with
  | plain he he' =>
    cases e with
    | object o => exact False.elim he
    | _ => exact (noMethod_ne_ok _ _ _ _ hc).elim
  | object ho =>
    cases ho with
    | node hnm =>
      simp only [h.kind hnm] at hc hc'
      split_ifs at hc hc'
      · cases hc
        cases hc'
        exact hnm
      · exact (noMethod_ne_ok _ _ _ _ hc).elim
    | deck hij =>
      obtain ⟨d, e, hd, he, hde, -⟩ := h.workspace.deck hij
      simp only [hd, he] at hc hc'
      cases method <;> cases hc <;> cases hc' <;> first | exact hde.document | exact hde.header
    | _ => exact (noMethod_ne_ok _ _ _ _ hc).elim

lemma argumentsOf (he : e.Paired K e') {field : String} {a b : ArgumentsRef} (ha : s.argumentsOf e field = .ok a)
    (hb : t.argumentsOf e' field = .ok b) : a.Paired K b := by
  rw [Session.argumentsOf.eq_def] at ha hb
  cases he with
  | plain he he' =>
    cases e with
    | object o => exact False.elim he
    | _ => exact (missing_ne_ok _ _ _ _ ha).elim
  | object ho =>
    cases ho with
    | arguments hab =>
      cases ha
      cases hb
      exact hab
    | node hnm =>
      simp only [h.kind hnm] at ha hb
      split_ifs at ha hb
      · cases ha
        cases hb
        exact .ofNode hnm
      · exact (missing_ne_ok _ _ _ _ ha).elim
    | _ => exact (missing_ne_ok _ _ _ _ ha).elim

lemma modifyArguments {a b : ArgumentsRef} (hab : a.Paired K b) (f : Arguments → Arguments) :
    (s.modifyArguments a f).Twins C K (t.modifyArguments b f) :=
  { h with workspace := h.workspace.modifyArguments hab f }

lemma changeArguments (he : e.Paired K e') {method : Method} {f : Arguments → Arguments}
    (hu : s.changeArguments e method f = .ok (u, x)) (hv : t.changeArguments e' method f = .ok (v, y)) :
    u.Twins C K v ∧ x.Paired K y := by
  obtain ⟨a, ha, hu⟩ := bind_eq_ok_iff.mp hu
  obtain ⟨b, hb, hv⟩ := bind_eq_ok_iff.mp hv
  have hab := h.argumentsOf he ha hb
  cases hu
  cases hv
  refine ⟨h.modifyArguments hab f, ?_⟩
  cases he with
  | plain he he' =>
    cases e with
    | object o => exact False.elim he
    | _ => exact (missing_ne_ok _ _ _ _ ha).elim
  | object ho =>
    cases ho with
    | arguments => exact .plain trivial trivial
    | node hnm => exact .object (.node hnm)
    | _ => cases ha

lemma addSettings (hs : s.Bounded) (ht : t.Bounded) (settings : Settings) : ∃ K', K.Le K' ∧
    Twins C K' { s with workspace := (s.workspace.addSettings settings).1 }
      { t with workspace := (t.workspace.addSettings settings).1 } ∧
    K'.settings s.workspace.settings.size t.workspace.settings.size := by
  obtain ⟨K', hnew, hadded, hsettings⟩ := h.workspace.addSettings settings
  exact ⟨K', hnew.le, h.renew hs ht hnew hadded, hsettings⟩

lemma takeSettings (hs : s.Bounded) (ht : t.Bounded) {source : SettingsSource}
    (hsource : ∀ name ∈ source.names, name ∉ C.aside) {i j : ℕ} (hu : s.takeSettings source = .ok (u, i))
    (hv : t.takeSettings source = .ok (v, j)) : ∃ K', K.Le K' ∧ u.Twins C K' v ∧ K'.settings i j := by
  cases source with
  | standard =>
    cases hu
    cases hv
    exact h.addSettings hs ht {}
  | data datum =>
    simp only [Session.takeSettings] at hu hv
    split at hu
    · next settings hsettings =>
      rw [hsettings] at hv
      cases hu
      cases hv
      exact h.addSettings hs ht settings
    · cases hu
  | shared name =>
    have hname : name ∉ C.aside := hsource name (List.mem_singleton_self name)
    obtain ⟨hon, rfl⟩ | ⟨hon, hadded⟩ := cases_of_takeShared hu <;>
      obtain ⟨hon', rfl⟩ | ⟨hon', hadded'⟩ := cases_of_takeShared hv
    · cases (h.paired_of_lookup hname hon hon').of_objects with
      | settings hij => exact ⟨K, .refl K, h, hij⟩
    · obtain ⟨e', he', hne⟩ := hon'
      cases h.paired_of_lookup hname hon he' with
      | plain he _ => exact False.elim he
      | object ho => cases ho with | settings hij => exact (hne _ rfl).elim
    · obtain ⟨e, he, hne⟩ := hon
      cases h.paired_of_lookup hname he hon' with
      | plain _ he' => exact False.elim he'
      | object ho => cases ho with | settings hij => exact (hne _ rfl).elim
    · cases hadded
      cases hadded'
      exact h.addSettings hs ht {}

lemma makeDeck (hs : s.Bounded) (ht : t.Bounded) {outlineTitle? : Option String} {source : SettingsSource}
    (hsource : ∀ name ∈ source.names, name ∉ C.aside)
    (hbuilds : (∀ x y, C.alike x y → y.preamble = x.preamble) ∨ s.BuildsOutside C.inside t outlineTitle? source)
    (hu : s.makeDeck outlineTitle? source = .ok (u, x)) (hv : t.makeDeck outlineTitle? source = .ok (v, y)) :
    ∃ K', K.Le K' ∧ u.Twins C K' v ∧ x.Paired K' y := by
  have hmade := hu
  have hmade' := hv
  obtain ⟨s₁, i, store, d, htake, hbuild, rfl, rfl⟩ := exists_build_of_makeDeck hu
  obtain ⟨t₁, j, store', e, htake', hbuild', rfl, rfl⟩ := exists_build_of_makeDeck hv
  obtain ⟨K₁, hle, h₁, hij⟩ := h.takeSettings hs ht hsource htake htake'
  have hsettings := Deck.settings_of_build hbuild
  have hsettings' := Deck.settings_of_build hbuild'
  have hplan : (t₁.workspace.settingsAt j).preamble = (s₁.workspace.settingsAt i).preamble ∨ ¬ C.inside d.preamble := by
    obtain hsame | houtside := hbuilds
    · exact .inl (hsame _ _ (h₁.workspace.settings hij).2.2)
    · refine or_iff_not_imp_left.mpr fun hdiffer => houtside _ _ d e ⟨_, hmade, by simp [Workspace.deck?]⟩
        ⟨_, hmade', by simp [Workspace.deck?]⟩ ?_
      rwa [hsettings, hsettings']
  obtain ⟨R, hbuilt, hde⟩ := Deck.twins_build h₁.workspace.store hbuild hbuild' hplan
  obtain ⟨hnew₂, h₂⟩ := h₁.workspace.withStore hbuilt
  obtain ⟨K₃, hnew₃, h₃, hdeck⟩ := h₂.pushDeck hde (by rwa [hsettings, hsettings'])
  have hnew := hnew₂.trans hnew₃ ⟨hbuilt.size_le, le_rfl, le_rfl⟩ ⟨hbuilt.size_le', le_rfl, le_rfl⟩
  have hs₁ := (extends_takeSettings htake).1.bounded hs
  have ht₁ := (extends_takeSettings htake').1.bounded ht
  exact ⟨K₃, hle.trans hnew.le, h₁.renew hs₁ ht₁ hnew h₃, .object (.deck hdeck)⟩

lemma withStore (hs : s.Bounded) (ht : t.Bounded) {R : NodeId → NodeId → Prop} {a b : Store}
    (hstore : Store.LaterTwins K.node C.inside s.store t.store R a b) : ∃ K', K.Le K' ∧ R ≤ K'.node ∧
      (s.withStore a).Twins C K' (t.withStore b) := by
  obtain ⟨hnew, hw⟩ := h.workspace.withStore hstore
  exact ⟨_, hnew.le, le_rfl, h.renew hs ht hnew hw⟩

lemma modify {n m : NodeId} (hnm : K.node n m) {g k : Node → Node}
    (hgk : ∀ x y, x.Twins K.node (C.inside n) y → (g x).Twins K.node (C.inside n) (k y)) :
    (s.withStore (s.store.modify n g)).Twins C K (t.withStore (t.store.modify m k)) :=
  { h with workspace := { h.workspace with store := h.workspace.store.modify hnm hgk } }

lemma change (hs : s.Bounded) (ht : t.Bounded) (he : e.Paired K e') {c : Change} (hu : s.change e c = .ok (u, x))
    (hv : t.change e' c = .ok (v, y)) : ∃ K', K.Le K' ∧ u.Twins C K' v ∧ x.Paired K' y := by
  have hplain {K' : Pairing} : Entity.nothing.Paired K' .nothing := .plain trivial trivial
  cases changes hu with
  | headings hc =>
    cases changes hv with
    | headings hc' =>
      obtain ⟨R, hstore⟩ := h.workspace.store.createAllIn (h.containerFor he hc hc') _
      obtain ⟨K', hle, -, huv⟩ := h.withStore hs ht hstore
      exact ⟨K', hle, huv, hplain⟩
  | setTitle hd =>
    cases changes hv with
    | setTitle hd' =>
      cases he.of_objects with
      | deck hij =>
        obtain ⟨d, e, hd₁, he₁, hde, -⟩ := h.workspace.deck hij
        cases hd.symm.trans hd₁
        cases hd'.symm.trans he₁
        obtain ⟨R, hstore⟩ := Deck.twins_setTitle h.workspace.store hde _ _ _ _
        obtain ⟨K', hle, -, huv⟩ := h.withStore hs ht hstore
        exact ⟨K', hle, huv, hplain⟩
  | addOption hu =>
    cases changes hv with
    | addOption hv => exact ⟨K, .refl K, h.changeArguments he hu hv⟩
  | setComment hu =>
    cases changes hv with
    | setComment hv => exact ⟨K, .refl K, h.changeArguments he hu hv⟩
  | addSlideQualifier =>
    cases changes hv with
    | addSlideQualifier =>
      cases he.of_objects with
      | node hnm => exact ⟨K, .refl K, h.modify hnm fun x y hxy => hxy.qualify _, .object (.node hnm)⟩
  | addSource hcode =>
    cases changes hv with
    | addSource hcode' =>
      cases he.of_objects with
      | node hnm =>
        have hlisting := (h.node hnm).listing?
        rw [hcode, hcode'] at hlisting
        obtain ⟨R, hstore⟩ := h.workspace.store.createAllIn (Option.rel_some_some.mp hlisting) _
        obtain ⟨K', hle, -, huv⟩ := h.withStore hs ht hstore
        exact ⟨K', hle, huv, .object (.node (hle.node _ _ hnm))⟩

lemma assign {o o' : Object} (ho : o.Paired K o') {name : String} {value : Atom} (hu : s.assign o name value = .ok u)
    (hv : t.assign o' name value = .ok v) : u.Twins C K v := by
  have hmark (hu : s.markUnlessOwn o name value = .ok u) (hv : t.markUnlessOwn o' name value = .ok v) :
      u.Twins C K v := by
    rw [eq_mark_of_markUnlessOwn hu, eq_mark_of_markUnlessOwn hv]
    exact h.mark ho name value
  cases ho with
  | node hnm =>
    have hassign := (h.node hnm).assign? name value
    simp only [Session.assign] at hu hv
    generalize (s.store.node _).assign? name value = x?, (t.store.node _).assign? name value = y? at hassign hu hv
    cases hassign with
    | none => exact hmark hu hv
    | some hxy =>
      cases hu
      cases hv
      exact h.modify hnm fun _ _ _ => hxy
  | arguments hab =>
    simp only [Session.assign] at hu hv
    split_ifs at hu hv
    · cases hu
      cases hv
      exact h.modifyArguments hab _
    · exact hmark hu hv
  | deck hij =>
    simp only [Session.assign] at hu hv
    split_ifs at hu hv
    · cases hu
      cases hv
      exact { h with workspace := h.workspace.retitle hij value }
    · exact hmark hu hv
  | settings => cases hu
  | kind k =>
    simp only [Session.assign] at hu hv
    split_ifs at hu hv
    cases hu
    cases hv
    exact h.mark (.kind k) name value

lemma set (he : e.Paired K e') {name : String} {value : Atom} (hu : s.set e name value = .ok u)
    (hv : t.set e' name value = .ok v) : u.Twins C K v := by
  cases he with
  | plain he _ =>
    obtain ⟨o, rfl, -⟩ := exists_assigns hu
    exact False.elim he
  | object ho => exact h.assign ho hu hv

lemma assignSetting (he : e.Paired K e') {field : String} {value : Datum} (hu : s.assignSetting e field value = .ok u)
    (hv : t.assignSetting e' field value = .ok v) : u.Twins C K v := by
  obtain ⟨i, d, x, rfl, hd, hx, rfl⟩ := exists_of_assignSetting hu
  obtain ⟨j, e, y, rfl, he', hy, rfl⟩ := exists_of_assignSetting hv
  cases he.of_objects with
  | deck hij =>
    obtain ⟨d', e', hd', he'', -, hsettings⟩ := h.workspace.deck hij
    cases hd.symm.trans hd'
    cases he'.symm.trans he''
    have halike := (h.workspace.settings hsettings).2.2
    exact { h with workspace := h.workspace.setSettings hsettings (C.alike_assign? halike hx hy) }

lemma nodeField? {n m : NodeId} (hnm : K.node n m) {name : String} (hx : s.nodeField? n name = some x)
    (hy : t.nodeField? m name = some y) : x.Paired K y := by
  have hnode := h.node hnm
  by_cases hname : name ∈ ["kind", "parent", "minted", "arguments"]
  · simp only [List.mem_cons, List.not_mem_nil, or_false] at hname
    rcases hname with rfl | rfl | rfl | rfl
    · cases hx
      cases hy
      rw [hnode.alike.kind]
      exact .object (.kind _)
    · have hparent := hnode.parent?
      simp only [Session.nodeField?] at hx hy
      cases hx
      cases hy
      generalize (s.store.node n).parent? = p?, (t.store.node m).parent? = q? at hparent
      cases hparent with
      | none => exact .plain trivial trivial
      | some hpq => exact .object (.node hpq)
    · have hlisting := hnode.listing?
      rw [nodeField?_minted] at hx hy
      generalize (s.store.node n).content.listing? = p?, (t.store.node m).content.listing? = q? at hlisting hx hy
      cases hlisting with
      | none =>
        obtain ⟨a, -, rfl⟩ := Option.map_eq_some_iff.mp hx
        obtain ⟨b, -, rfl⟩ := Option.map_eq_some_iff.mp hy
        exact .plain trivial trivial
      | some hpq =>
        cases hx
        cases hy
        exact .object (.node hpq)
    · simp only [Session.nodeField?] at hx hy
      split_ifs at hx hy
      cases hx
      cases hy
      exact .object (.arguments (.ofNode hnm))
  · exact .plain (isPlain_of_nodeField? hname hx) (isPlain_of_nodeField? hname hy)

lemma ownField? {o o' : Object} (ho : o.Paired K o') {name : String} (hx : s.ownField? o name = some x)
    (hy : t.ownField? o' name = some y) : x.Paired K y := by
  cases ho with
  | node hnm => exact h.nodeField? hnm hx hy
  | arguments hab =>
    simp only [Session.ownField?, Session.argumentsField?.eq_def] at hx hy
    split at hx <;> cases hx <;> cases hy <;> exact .plain trivial trivial
  | deck hij =>
    obtain ⟨d, e, hd, he, hde, hsettings⟩ := h.workspace.deck hij
    simp only [Session.ownField?, hd, he, Option.bind_some, deckField?.eq_def] at hx hy
    split at hx <;> cases hx <;> cases hy
    · exact .plain trivial trivial
    · exact .object (.settings hsettings)
    · exact .object (.node hde.document)
    · exact .object (.node hde.preamble)
    · exact .object (.node hde.header)
  | settings => cases hx
  | kind k =>
    simp only [Session.ownField?] at hx hy
    split at hx <;> cases hx <;> cases hy <;> exact .plain trivial trivial

lemma get (he : e.Paired K e') {name : String} (hx : s.get e name = .ok x) (hy : t.get e' name = .ok y) :
    x.Paired K y := by
  cases he with
  | plain he he' => exact .plain (isPlain_of_get he hx) (isPlain_of_get he' hy)
  | object ho =>
    rename_i o o'
    simp only [Session.get, Session.field?, h.marks ho] at hx hy
    cases hmark : s.marked? o name with
    | some a =>
      rw [hmark] at hx hy
      cases hx
      cases hy
      exact .plain trivial trivial
    | none =>
      simp only [hmark, Option.map_none, Option.none_or] at hx hy
      cases hown : s.ownField? o name with
      | none => exact (missing_ne_ok _ _ _ _ (hown ▸ hx)).elim
      | some x' =>
        cases hown' : t.ownField? o' name with
        | none => exact (missing_ne_ok _ _ _ _ (hown' ▸ hy)).elim
        | some y' =>
          rw [hown] at hx
          rw [hown'] at hy
          cases hx
          cases hy
          exact h.ownField? ho hown hown'

lemma look (he : e.Paired K e') {question : Look} (hx : (s.look e question).outcome = .ok x)
    (hy : (t.look e' question).outcome = .ok y) : x.Paired K y := by
  by_cases hfield : ∃ name, question = .field name
  · obtain ⟨name, rfl⟩ := hfield
    exact h.get he hx hy
  · have hquestion (name : String) : question ≠ .field name := fun heq => hfield ⟨name, heq⟩
    exact .plain (isPlain_of_look hquestion hx) (isPlain_of_look hquestion hy)

lemma start (hs : s.Bounded) (ht : t.Bounded) {c : Construction} (hnames : ∀ name ∈ c.names, name ∉ C.aside)
    (hbuilds : ∀ outlineTitle? source, c = .deck outlineTitle? source →
      (∀ x y, C.alike x y → y.preamble = x.preamble) ∨ s.BuildsOutside C.inside t outlineTitle? source)
    {p q : Pending} (hu : c.start s = .ok (u, p)) (hv : c.start t = .ok (v, q)) :
    ∃ K', K.Le K' ∧ u.Twins C K' v ∧ p.Paired K' q := by
  cases Construction.begins hu with
  | deck hmake =>
    cases Construction.begins hv with
    | deck hmake' =>
      obtain ⟨K', hle, huv, hxy⟩ := h.makeDeck hs ht hnames (hbuilds _ _ rfl) hmake hmake'
      exact ⟨K', hle, huv, hxy, .none⟩
  | adopt hon hc hnode =>
    cases Construction.begins hv with
    | adopt hon' hc' hnode' =>
      have he := h.paired_of_lookup (hnames _ (by simp [Construction.names])) hon hon'
      exact ⟨K, .refl K, h, h.paired_of_lookup (hnames _ (by simp [Construction.names])) hnode hnode',
        .some ⟨h.containerFor he hc hc', rfl⟩⟩
  | child hon hc =>
    cases Construction.begins hv with
    | child hon' hc' =>
      have he := h.paired_of_lookup (hnames _ (by simp [Construction.names])) hon hon'
      have hcontainer := h.containerFor he hc hc'
      rw [h.kind hcontainer]
      obtain ⟨R, hstore, hnew⟩ := h.workspace.store.create _
      obtain ⟨K', hle, hR, huv⟩ := h.withStore hs ht hstore
      exact ⟨K', hle, huv, .object (.node (hR _ _ hnew)), .some ⟨hle.node _ _ hcontainer, rfl⟩⟩
  | head hon hc =>
    cases Construction.begins hv with
    | head hon' hc' =>
      have he := h.paired_of_lookup (hnames _ (by simp [Construction.names])) hon hon'
      exact ⟨K, .refl K, h, .object (.node (h.containerFor he hc hc')), .none⟩

lemma finish {p q : Pending} (hpq : p.Paired K q) (hu : p.finish s = .ok u) (hv : q.finish t = .ok v) :
    u.Twins C K v := by
  have hattachment := hpq.attachment?
  have hend := Pending.finish_eq hu
  have hend' := Pending.finish_eq hv
  generalize p.attachment? = a?, q.attachment? = b? at hattachment hend hend'
  cases hattachment with
  | none =>
    rw [hend, hend']
    exact h
  | @some a b hab =>
    obtain ⟨hc, hnm, hplace⟩ := hab
    rw [hend.2, hend'.2, Attachment.apply, Attachment.apply, hplace]
    exact { h with workspace := { h.workspace with store := h.workspace.store.link hc hnm a.place } }

lemma endsIn (hs : s.Bounded) (ht : t.Bounded) {action : Action} (hnames : ∀ name ∈ action.names, name ∉ C.aside)
    (hbuilds : ∀ outlineTitle? source, action = .makeDeck outlineTitle? source →
      (∀ x y, C.alike x y → y.preamble = x.preamble) ∨ s.BuildsOutside C.inside t outlineTitle? source)
    (hu : action.EndsIn s u x) (hv : action.EndsIn t v y) : ∃ K', K.Le K' ∧ u.Twins C K' v ∧ x.Paired K' y := by
  have hnothing : Entity.nothing.Paired K .nothing := .plain trivial trivial
  have hon {on : String} (hmem : on ∈ action.names) {e e' : Entity} : s.lookup on = .ok e → t.lookup on = .ok e' →
      e.Paired K e' := h.paired_of_lookup (hnames on hmem)
  cases hu with
  | make draft =>
    cases hv with
    | make =>
      obtain ⟨R, hstore, hnew⟩ := h.workspace.store.create draft
      obtain ⟨K', hle, hR, huv⟩ := h.withStore hs ht hstore
      refine ⟨K', hle, huv, ?_⟩
      rw [Store.create_snd, Store.create_snd]
      exact .object (.node (hR _ _ hnew))
  | makeArguments a =>
    cases hv with
    | makeArguments =>
      have harguments := h.workspace.arguments
      refine ⟨K, .refl K, { h with workspace := { h.workspace with
        arguments := congrArg (Array.push · a) harguments } }, ?_⟩
      simp only [Workspace.addArguments, harguments]
      exact .object (.arguments (.free _))
  | makeDeck hu =>
    cases hv with
    | makeDeck hv => exact h.makeDeck hs ht hnames (hbuilds _ _ rfl) hu hv
  | makeCodeHeader comment? =>
    cases hv with
    | makeCodeHeader =>
      obtain ⟨R, hstore, hnew⟩ := Deck.twins_makeCodeHeader h.workspace.store comment?
      obtain ⟨K', hle, hR, huv⟩ := h.withStore hs ht hstore
      exact ⟨K', hle, huv, .object (.node (hR _ _ hnew))⟩
  | change he hu =>
    cases hv with
    | change he' hv => exact h.change hs ht (hon (List.mem_singleton_self _) he he') hu hv
  | look he hx =>
    cases hv with
    | look he' hy => exact ⟨K, .refl K, h, h.look (hon List.mem_cons_self he he') hx hy⟩
  | assign he hu =>
    cases hv with
    | assign he' hv => exact ⟨K, .refl K, h.set (hon (List.mem_singleton_self _) he he') hu hv, hnothing⟩
  | assignSetting he hu =>
    cases hv with
    | assignSetting he' hv =>
      exact ⟨K, .refl K, h.assignSetting (hon (List.mem_singleton_self _) he he') hu hv, hnothing⟩
  | pushArgument he ha =>
    cases hv with
    | pushArgument he' hb =>
      exact ⟨K, .refl K, h.modifyArguments (h.argumentsOf (hon (List.mem_singleton_self _) he he') ha hb) _, hnothing⟩
  | load hsettings =>
    cases hv with
    | load hsettings' =>
      cases hsettings.symm.trans hsettings'
      obtain ⟨K', hle, huv, hnew⟩ := h.addSettings hs ht _
      exact ⟨K', hle, huv, .object (.settings hnew)⟩
  | setUpLog verbose debug? =>
    cases hv with
    | setUpLog =>
      exact ⟨K, .refl K, ⟨h.workspace, h.marks, h.names⟩, .plain trivial trivial⟩

end Twins

end Session

end Script

end SlideDeck
