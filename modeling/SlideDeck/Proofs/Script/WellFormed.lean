import SlideDeck.Proofs.Store.DeckEdits
import SlideDeck.Script.Method

/-! Sessions whose names and presentations point into their store. -/

namespace SlideDeck.Script

def Entity.Within (store : Store) : Entity → Prop
  | .object (.node n) => n < store.size
  | _ => True

structure Session.WellFormed (s : Session) : Prop where
  store : s.store.WellFormed
  names : ∀ entry ∈ s.names, entry.2.Within s.store
  decks : ∀ d ∈ s.workspace.decks, d.Within s.store

lemma Entity.Within.grows {e : Entity} {s t : Store} (he : e.Within s) (h : s.Grows t) :
    e.Within t := by
  cases e with
  | object o =>
    cases o with
    | node n => exact Nat.lt_of_lt_of_le he h.size_le
    | _ => trivial
  | _ => trivial

lemma bind_eq_ok_iff {α β ε : Type} {x : Except ε α} {f : α → Except ε β} {b : β} :
    x >>= f = .ok b ↔ ∃ a, x = .ok a ∧ f a = .ok b := by
  cases x <;> simp [bind, Except.bind]

namespace Session

variable {s : Session}

lemma mem_names_of_lookup {name : String} {e : Entity} (h : s.lookup name = .ok e) : (name, e) ∈ s.names := by
  rw [Session.lookup] at h
  split at h
  · next entity hlookup =>
    cases h
    obtain ⟨before, after, hnames, -⟩ := List.lookup_eq_some_iff.mp hlookup
    simp [hnames]
  · simp at h

lemma WellFormed.lookup (hs : s.WellFormed) {name : String} {e : Entity}
    (h : s.lookup name = .ok e) : e.Within s.store :=
  hs.names _ (mem_names_of_lookup h)

lemma WellFormed.deck? (hs : s.WellFormed) {i : Nat} {d : Deck}
    (h : s.workspace.deck? i = some d) : d.Within s.store :=
  hs.decks d (Array.mem_of_getElem? h)

lemma missing_ne_ok {α : Type} (s : Session) (e : Entity) (field : String) (a : α) :
    s.missing e field ≠ .ok a := by
  simp [missing]

lemma noMethod_ne_ok {α : Type} (s : Session) (e : Entity) (method : Method) (a : α) :
    s.noMethod e method ≠ .ok a := by
  rw [noMethod.eq_def]
  split <;> simp [missing]

lemma WellFormed.containerFor (hs : s.WellFormed) {e : Entity} (he : e.Within s.store)
    {method : Method} (hm : ∀ kind, method.isOf kind = true → kind.isContainer = true)
    {c : NodeId} (h : s.containerFor e method = .ok c) : s.store.Container c := by
  rw [Session.containerFor.eq_def] at h
  split at h
  · split at h
    · next n hof =>
      cases h
      exact ⟨he, hm _ hof⟩
    · exact (noMethod_ne_ok _ _ _ _ h).elim
  · split at h
    · next d hd =>
      have hw := hs.deck? hd
      split at h
      · cases h; exact hw.header.container rfl
      · cases h; exact hw.header.container rfl
      · cases h; exact hw.header.container rfl
      · split at h
        · cases h; exact hw.document.container rfl
        · exact (noMethod_ne_ok _ _ _ _ h).elim
    · exact (noMethod_ne_ok _ _ _ _ h).elim
  · exact (noMethod_ne_ok _ _ _ _ h).elim

end Session

end SlideDeck.Script
