import Mathlib.Data.List.Forall2
import SlideDeck.Proofs.Store.Embedding
import SlideDeck.Script.Field
import SlideDeck.Script.Method

/-! Two sessions with the same objects at other places, and what is read of corresponding objects. -/

namespace SlideDeck

structure Relocation where
  node : NodeId ↪ NodeId
  deck : ℕ ↪ ℕ
  settings : ℕ ↪ ℕ

def Deck.relocate (r : Relocation) (d : Deck) : Deck :=
  { d with
    settings := r.settings d.settings
    document := r.node d.document
    preamble := r.node d.preamble
    header := r.node d.header }

def ArgumentsRef.relocate (r : Relocation) : ArgumentsRef → ArgumentsRef
  | ofNode n => ofNode (r.node n)
  | free i => free i

/-- Settings that may differ in what is not read when a presentation is written. -/
structure LooseSettings.WritesAlike (x y : LooseSettings) : Prop where
  indent : y.indent = x.indent
  codeComment? : y.codeComment? = x.codeComment?

namespace LooseSettings.WritesAlike

variable {x y : LooseSettings}

lemma refl (x : LooseSettings) : x.WritesAlike x := ⟨rfl, rfl⟩

lemma trans {z : LooseSettings} (h : x.WritesAlike y) (h' : y.WritesAlike z) : x.WritesAlike z :=
  ⟨h'.indent.trans h.indent, h'.codeComment?.trans h.codeComment?⟩

lemma step? (h : x.WritesAlike y) : y.step? = x.step? := by rw [LooseSettings.step?, h.indent, LooseSettings.step?]

lemma comment? (h : x.WritesAlike y) : y.comment? = x.comment? := by
  rw [LooseSettings.comment?, h.codeComment?, LooseSettings.comment?]

end LooseSettings.WritesAlike

namespace Node

variable (f : NodeId → NodeId) (n : Node) (name : String) (value : Atom)

lemma plainField?_rename : (n.rename f).plainField? name = n.plainField? name := by
  obtain ⟨content, foreign?, parent?, slides?, children, odd⟩ := n
  cases content with
  | code title language listing =>
    simp only [rename, Content.rename, plainField?]
    split
    case h_14 => split <;> simp_all
    all_goals simp_all [shownSlides, Content.arguments?]
  | _ => rfl

lemma field?_rename : (n.rename f).field? name = n.field? name := by
  rw [field?, field?, plainField?_rename]
  rfl

lemma assign?_rename : (n.rename f).assign? name value = (n.assign? name value).map (rename f) := by
  have hcontent (c : Content) : (c.rename f).assign? name value = (c.assign? name value).map (Content.rename f) := by
    cases c with
    | header => simp [Content.rename, Content.assign?]
    | code title language listing =>
      simp only [Content.rename, Content.assign?]
      split
      case h_12 => split <;> simp_all
      all_goals simp_all [Content.rename]
    | _ =>
      simp only [Content.rename, Content.assign?]
      split <;> first | rfl | simp_all
  rw [assign?, assign?]
  split_ifs
  · rfl
  · simp only [rename, hcontent, Option.map_map]
    rfl
  · simp only [rename, hcontent, Option.map_map]
    rfl

end Node

namespace Script

def Object.relocate (r : Relocation) : Object → Object
  | node n => node (r.node n)
  | arguments a => arguments (a.relocate r)
  | deck i => deck (r.deck i)
  | settings i => settings (r.settings i)
  | kind k => kind k

def Entity.relocate (r : Relocation) : Entity → Entity
  | object o => object (o.relocate r)
  | nodes form members => nodes form (members.map r.node)
  | part owner p => part (owner.relocate r) p
  | value v => value v

lemma ArgumentsRef.relocate_inj (r : Relocation) {a b : ArgumentsRef} : a.relocate r = b.relocate r ↔ a = b := by
  cases a <;> cases b <;> simp [ArgumentsRef.relocate]

lemma Object.relocate_inj (r : Relocation) {o p : Object} : o.relocate r = p.relocate r ↔ o = p := by
  cases o <;> cases p <;> simp [Object.relocate, ArgumentsRef.relocate_inj]

lemma Entity.named_relocate (r : Relocation) (name? : Option String) (e : Entity) :
    (e.named name?).relocate r = (e.relocate r).named name? := by
  cases e with
  | value v => cases v <;> rfl
  | _ => rfl

lemma Entity.relocate_ne_node {r : Relocation} {e : Entity} (h : ∀ n, e ≠ .node n) (n : NodeId) :
    e.relocate r ≠ .node n := by
  rintro heq
  cases e with
  | object o =>
    cases o with
    | node m => exact h m rfl
    | _ => cases heq
  | _ => cases heq

def Entity.is (o : Object) : Entity → Bool
  | object p => p == o
  | _ => false

lemma Entity.is_eq_false {o : Object} {e : Entity} (h : e ≠ .object o) : e.is o = false := by
  cases e with
  | object p => exact beq_false_of_ne fun heq => h (congrArg _ heq)
  | _ => rfl

lemma Session.nameOf?_eq (s : Session) (o : Object) :
    s.nameOf? o = (s.names.find? fun entry => entry.2.is o).map (·.1) := rfl

/-- How far two sessions may be apart. Some names may stand for unrelated things that are no objects of both, some
settings may differ in what is not read in writing, and some presentations in the title of their outlines. -/
structure Tie extends Relocation where
  veils : String → Entity → Entity → Prop
  parted : ℕ → Prop
  retitled : ℕ → Prop
  loggers : Log.Logger → Log.Logger → Prop
  left_of_veils {name : String} {e e' : Entity} : veils name e e' → ∀ o, e ≠ .object o
  right_of_veils {name : String} {e e' : Entity} : veils name e e' →
    ∀ o : Object, e' ≠ .object (o.relocate toRelocation)

lemma Tie.left_of_unveiled {_name : String} {e _e' : Entity} (h : False) (o : Object) : e ≠ .object o := h.elim

lemma Tie.right_of_unveiled {r : Relocation} {_name : String} {_e e' : Entity} (h : False) (o : Object) :
    e' ≠ .object (o.relocate r) := h.elim

instance : CoeOut Tie Relocation := ⟨Tie.toRelocation⟩

namespace Tie

variable (T : Tie)

def Settings (i : ℕ) (x y : LooseSettings) : Prop := x.WritesAlike y ∧ (y = x ∨ T.parted i)

def Decks (i : ℕ) (d e : Deck) : Prop :=
  e = { d.relocate T with outlineTitle := e.outlineTitle } ∧
    (e.outlineTitle = d.outlineTitle ∨ T.retitled i)

def Names (entry entry' : String × Entity) : Prop :=
  entry'.1 = entry.1 ∧
    (entry'.2 = entry.2.relocate T ∨ T.veils entry.1 entry.2 entry'.2)

def Keeps (o : Object) (name : String) : Prop := ∀ i, o = .deck i → name = "toctitle" → ¬ T.retitled i

def mark (m : (Object × String) × Atom) : (Object × String) × Atom :=
  ((m.1.1.relocate T, m.1.2), m.2)

end Tie

namespace Session

structure Tied (T : Tie) (s t : Session) : Prop where
  store : s.store.Embeds T.node t.store
  arguments : t.workspace.arguments = s.workspace.arguments
  settings : Spread T.settings T.Settings s.workspace.settings t.workspace.settings
  decks : Spread T.deck T.Decks s.workspace.decks t.workspace.decks
  names : List.Forall₂ T.Names s.names t.names
  marks : t.marks = s.marks.map T.mark
  logger : T.loggers s.logger t.logger

def Reads (T : Tie) (s : Session) (name : String) : Prop :=
  ∀ e, s.lookup name = .ok e → (∀ e', ¬ T.veils name e e') ∧ ∀ i, e = .object (.settings i) → ¬ T.parted i

lemma map_noMethod {α β : Type} (f : α → β) (s : Session) (e : Entity) (method : Method) :
    (s.noMethod e method).map f = s.noMethod e method := by
  unfold noMethod
  split <;> rfl

namespace Tied

variable {T : Tie} {s t : Session}

def Shows (T : Tie) (s t : Session) (e : Entity) : Prop :=
  ∀ i, e = .object (.settings i) → t.workspace.settingsAt (T.settings i) = s.workspace.settingsAt i

section

variable (h : s.Tied T t)

include h

lemma kind (n : NodeId) : t.store.kind (T.node n) = s.store.kind n := h.store.kind n

lemma content (n : NodeId) : (t.store.node (T.node n)).content = (s.store.node n).content.rename T.node := by
  rw [h.store.node]
  rfl

lemma settingsAt (i : ℕ) : T.Settings i (s.workspace.settingsAt i) (t.workspace.settingsAt (T.settings i)) := by
  have hitem := h.settings.items i
  simp only [Workspace.settingsAt, Array.getD_eq_getD_getElem?]
  generalize s.workspace.settings[i]? = x?, t.workspace.settings[T.settings i]? = y? at hitem
  cases hitem with
  | none => exact ⟨.refl _, .inl rfl⟩
  | some hitem => exact hitem

lemma shows {e : Entity} (he : ∀ i, e = .object (.settings i) → ¬ T.parted i) : Shows T s t e :=
  fun i hi => (h.settingsAt i).2.resolve_right (he i hi)

lemma deck?_cases (i : ℕ) : (s.workspace.deck? i = none ∧ t.workspace.deck? (T.deck i) = none) ∨
    ∃ d e, s.workspace.deck? i = some d ∧ t.workspace.deck? (T.deck i) = some e ∧ T.Decks i d e := by
  have hdeck : Option.Rel (T.Decks i) (s.workspace.deck? i) (t.workspace.deck? (T.deck i)) := h.decks.items i
  generalize s.workspace.deck? i = x?, t.workspace.deck? (T.deck i) = y? at hdeck
  cases hdeck with
  | none => exact .inl ⟨rfl, rfl⟩
  | some hdeck => exact .inr ⟨_, _, rfl, rfl, hdeck⟩

lemma argumentsAt (a : ArgumentsRef) :
    t.workspace.argumentsAt (a.relocate T) = s.workspace.argumentsAt a := by
  cases a with
  | ofNode n =>
    have hcontent : ((t.store.node (T.node n)).content.arguments?).getD {} =
        ((s.store.node n).content.arguments?).getD {} := by rw [h.content, Content.arguments?_rename]
    exact hcontent
  | free i => exact congrArg (fun a : Array Arguments => a.getD i {}) h.arguments

lemma typeName_object (o : Object) : (o.relocate T).typeName t.store = o.typeName s.store := by
  cases o with
  | node n => exact congrArg Kind.typeName (h.kind n)
  | _ => rfl

lemma typeName (e : Entity) : (e.relocate T).typeName t.store = e.typeName s.store := by
  cases e with
  | object o => exact h.typeName_object o
  | _ => rfl

lemma missing {α : Type} (e : Entity) (field : String) :
    (t.missing (e.relocate T) field : Except Fault α) = s.missing e field := by
  rw [Session.missing, h.typeName, Session.missing]

lemma noMethod {α : Type} (e : Entity) (method : Method) :
    (t.noMethod (e.relocate T) method : Except Fault α) = s.noMethod e method := by
  have hmissing : (t.missing (e.relocate T) method.name : Except Fault α) = s.missing e method.name :=
    h.missing e method.name
  cases e with
  | object o => cases o <;> cases method <;> first | rfl | exact hmissing
  | value v =>
    cases v with
    | atom a => cases a <;> cases method <;> rfl
    | _ => exact hmissing
  | _ => exact hmissing

lemma containerFor (e : Entity) (method : Method) :
    t.containerFor (e.relocate T) method = (s.containerFor e method).map T.node := by
  have hno : (t.noMethod (e.relocate T) method : Except Fault NodeId) =
      (s.noMethod e method).map T.node := by
    rw [h.noMethod, map_noMethod]
  cases e with
  | object o =>
    cases o with
    | node n =>
      simp only [Session.containerFor, Entity.relocate, Object.relocate] at hno ⊢
      rw [h.kind, hno]
      split <;> rfl
    | deck i =>
      simp only [Session.containerFor, Entity.relocate, Object.relocate] at hno ⊢
      obtain ⟨hd, he⟩ | ⟨d, e, hd, he, heq, -⟩ := h.deck?_cases i
      · simp only [hd, he]
        exact hno
      · simp only [hd, he]
        rw [heq]
        cases method <;> rfl
    | _ => exact hno
  | _ => exact hno

lemma marked? (o : Object) (field : String) :
    t.marked? (o.relocate T) field = s.marked? o field := by
  rw [Session.marked?, Session.marked?, h.marks]
  induction s.marks with
  | nil => rfl
  | cons m rest ih =>
    obtain ⟨⟨p, f⟩, a⟩ := m
    have hkey : ((o.relocate T, field) == (p.relocate T, f)) = ((o, field) == (p, f)) := by
      rw [Bool.eq_iff_iff, beq_iff_eq, beq_iff_eq, Prod.mk.injEq, Prod.mk.injEq, Object.relocate_inj]
    rw [List.map_cons, Tie.mark, List.lookup_cons, List.lookup_cons, hkey, ih]

lemma nodeField? (n : NodeId) (name : String) :
    t.nodeField? (T.node n) name = (s.nodeField? n name).map (Entity.relocate T) := by
  rw [Session.nodeField?.eq_def, Session.nodeField?.eq_def, h.store.node]
  simp only [Node.kind_rename, Node.field?_rename]
  generalize s.store.node n = node
  split
  · simp [Entity.relocate, Object.relocate]
  · simp [Node.rename]
    cases node.parent? <;> rfl
  · next title language listing hcontent =>
    obtain ⟨title', language', listing', hnode⟩ : ∃ a b c, node.content = .code a b c := by
      cases hnode : node.content <;> simp_all [Node.rename, Content.rename]
    simp only [Node.rename, hnode, Content.rename, Content.code.injEq] at hcontent
    simp only [hnode, ← hcontent.2.2]
    rfl
  · simp only [Node.rename]
    split <;> rfl
  · split <;> rfl
  · split <;> rfl
  · split <;> rfl
  · split
    case h_8 =>
      rw [Option.map_map]
      rfl
    all_goals grind [Node.rename, Content.rename]

lemma argumentsField? (a : ArgumentsRef) (name : String) :
    t.argumentsField? (a.relocate T) name = (s.argumentsField? a name).map (Entity.relocate T) := by
  simp only [Session.argumentsField?.eq_def, h.argumentsAt]
  split <;> rfl

lemma ownField? (o : Object) (name : String) (hkept : T.Keeps o name) :
    t.ownField? (o.relocate T) name = (s.ownField? o name).map (Entity.relocate T) := by
  cases o with
  | node n => exact h.nodeField? n name
  | arguments a => exact h.argumentsField? a name
  | deck i =>
    simp only [Session.ownField?, Object.relocate]
    obtain ⟨hd, he⟩ | ⟨d, e, hd, he, heq, htitle⟩ := h.deck?_cases i
    · rw [hd, he]
      rfl
    · rw [hd, he, heq]
      simp only [Option.bind_some, Deck.relocate, deckField?.eq_def]
      split
      · rw [htitle.resolve_right (hkept i rfl rfl)]
        rfl
      all_goals rfl
  | settings i => rfl
  | kind k =>
    simp only [Session.ownField?, Object.relocate]
    split <;> rfl

lemma isSome_ownField? (o : Object) (name : String) :
    (t.ownField? (o.relocate T) name).isSome = (s.ownField? o name).isSome := by
  by_cases hkept : T.Keeps o name
  · rw [h.ownField? o name hkept, Option.isSome_map]
  · simp only [Tie.Keeps, not_forall] at hkept
    obtain ⟨i, rfl, rfl, -⟩ := hkept
    simp only [Session.ownField?, Object.relocate]
    obtain ⟨hd, he⟩ | ⟨d, e, hd, he, -⟩ := h.deck?_cases i
    · rw [hd, he]
    · rw [hd, he]
      rfl

lemma get (e : Entity) (name : String) (hkept : ∀ o, e = .object o → T.Keeps o name) :
    t.get (e.relocate T) name = (s.get e name).map (Entity.relocate T) := by
  cases e with
  | object o =>
    have hfield : t.field? (o.relocate T) name = (s.field? o name).map (Entity.relocate T) := by
      rw [Session.field?, Session.field?, h.marked?, h.ownField? o name (hkept o rfl)]
      cases s.marked? o name <;> rfl
    simp only [Session.get, Entity.relocate, hfield]
    cases s.field? o name with
    | none => exact h.missing (.object o) name
    | some value => rfl
  | value v =>
    have hmissing : (t.missing (.value v) name : Except Fault Entity) = s.missing (.value v) name :=
      h.missing (.value v) name
    cases v with
    | atom a =>
      cases a with
      | text body =>
        simp only [Session.get, Entity.relocate, hmissing]
        split <;> rfl
      | _ => exact hmissing
    | _ => exact hmissing
  | _ => exact h.missing _ name

lemma nameOf? (o : Object) : t.nameOf? (o.relocate T) = s.nameOf? o := by
  have hnames := h.names
  rw [nameOf?_eq, nameOf?_eq]
  generalize s.names = l, t.names = l' at hnames
  induction hnames with
  | nil => rfl
  | @cons x y _ _ hentry _ ih =>
    obtain ⟨name, e⟩ := x
    obtain ⟨name', e'⟩ := y
    obtain ⟨rfl, hentry⟩ := hentry
    have hsame : e'.is (o.relocate T) = e.is o := by
      rcases hentry with heq | hveiled
      · simp only at heq
        subst heq
        cases e with
        | object p =>
          simp only [Entity.relocate, Entity.is]
          rw [Bool.eq_iff_iff, beq_iff_eq, beq_iff_eq, Object.relocate_inj]
        | _ => rfl
      · rw [Entity.is_eq_false (T.left_of_veils hveiled o), Entity.is_eq_false (T.right_of_veils hveiled o)]
    rw [List.find?_cons, List.find?_cons, hsame]
    cases e.is o with
    | true => rfl
    | false => exact ih

lemma reference (o : Object) : t.reference (o.relocate T) = s.reference o := by
  have hname := h.nameOf? o
  have htype := h.typeName_object o
  cases o with
  | node n =>
    simp only [Object.relocate] at hname htype
    simp only [Session.reference, Object.relocate, hname, htype, h.kind]
  | _ =>
    simp only [Object.relocate] at hname htype
    simp only [Session.reference, Object.relocate, hname, htype]

lemma present (e : Entity) (hshows : Shows T s t e) : t.present (e.relocate T) = s.present e := by
  cases e with
  | object o =>
    have href := h.reference o
    cases o with
    | settings i => exact congrArg Value.settings (hshows i rfl)
    | kind k => rfl
    | _ => exact congrArg Value.reference href
  | nodes form members =>
    have href (n : NodeId) : t.reference (.node (T.node n)) = s.reference (.node n) := h.reference (.node n)
    simp only [Session.present, Entity.relocate, List.map_map, Function.comp_def, href]
  | part owner part => simp only [Session.present, Entity.relocate, h.argumentsAt]
  | value v => rfl

lemma rel_lookup (name : String) :
    Agree (fun e e' => e' = e.relocate T ∨ T.veils name e e') (s.lookup name) (t.lookup name) := by
  have hnames := h.names
  rw [Session.lookup, Session.lookup]
  generalize s.names = l, t.names = l' at hnames
  induction hnames with
  | nil => exact .error _
  | @cons x y _ _ hentry _ ih =>
    obtain ⟨key, e⟩ := x
    obtain ⟨key', e'⟩ := y
    obtain ⟨hkey, hentry⟩ := hentry
    simp only at hkey hentry
    subst hkey
    rw [List.lookup_cons, List.lookup_cons]
    cases hname : name == key' with
    | true =>
      obtain rfl := beq_iff_eq.mp hname
      exact .ok hentry
    | false => exact ih

lemma lookup {name : String} (hreads : s.Reads T name) :
    t.lookup name = (s.lookup name).map (Entity.relocate T) := by
  have hrel := h.rel_lookup name
  cases hs : s.lookup name with
  | error fault =>
    rw [hs] at hrel
    exact hrel.eq_of_error
  | ok e =>
    rw [hs] at hrel
    generalize t.lookup name = y at hrel
    cases hrel with
    | ok hentry =>
      rw [hentry.resolve_right ((hreads e hs).1 _)]
      rfl

lemma shows_of_reads {name : String} (hreads : s.Reads T name) {e : Entity} (he : s.lookup name = .ok e) :
    Shows T s t e := h.shows (hreads e he).2

end

end Tied

end Session

end Script

end SlideDeck
