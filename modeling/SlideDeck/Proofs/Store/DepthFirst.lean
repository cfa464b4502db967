import SlideDeck.Proofs.Store.Below
import SlideDeck.Proofs.Store.Settling

/-! The walk below a node in depth-first order, step by step. A search finds a kind exactly if the walk meets a
node of it. Below a node that is its own ancestor the walk comes back to this node, and from then on repeats
itself. -/

namespace SlideDeck.Store

/-- What a walk still has before it after some steps. At each step it meets the first of the nodes, and then
has the children of this one to meet before the others. -/
def agenda (s : Store) : (steps : ℕ) → List NodeId → List NodeId
  | 0, nodes => nodes
  | _ + 1, [] => []
  | steps + 1, n :: rest => s.agenda steps (s.children n ++ rest)

def meets? (s : Store) (nodes : List NodeId) (steps : ℕ) : Option NodeId := (s.agenda steps nodes).head?

/-- The walk below `c` meets a node of the kind no later than it comes back to `c`. -/
def MeetsByReturn (s : Store) (kind : Kind) (c : NodeId) : Prop :=
  ∃ i m, s.meets? (s.children c) i = some m ∧ s.kind m = kind ∧ ∀ j < i, s.meets? (s.children c) j ≠ some c

def Reaches (s : Store) (nodes : List NodeId) (m : NodeId) : Prop := ∃ i, s.meets? nodes i = some m

def Passes (s : Store) (nodes : List NodeId) : Prop := ∃ i, ∀ rest, s.agenda i (nodes ++ rest) = rest

variable {s : Store} {kind : Kind} {c m n p : NodeId} {nodes rest : List NodeId} {i j : ℕ}

lemma agenda_nil (i : ℕ) : s.agenda i [] = [] := by
  cases i <;> rfl

lemma agenda_add (i j : ℕ) (nodes : List NodeId) : s.agenda (i + j) nodes = s.agenda j (s.agenda i nodes) := by
  induction i generalizing nodes with
  | zero => rw [Nat.zero_add, agenda]
  | succ i ih =>
    rw [Nat.succ_add]
    cases nodes with
    | nil => rw [agenda, agenda, agenda_nil]
    | cons n rest => exact ih _

lemma agenda_append (h : s.agenda i nodes ≠ []) : s.agenda i (nodes ++ rest) = s.agenda i nodes ++ rest := by
  induction i generalizing nodes with
  | zero => rfl
  | succ i ih =>
    cases nodes with
    | nil => exact absurd (agenda_nil _) h
    | cons n nodes =>
      have hsplit : s.agenda i (s.children n ++ nodes ++ rest) = s.agenda i (s.children n ++ nodes) ++ rest := ih h
      rwa [List.append_assoc] at hsplit

lemma meets?_append (h : s.agenda i nodes ≠ []) : s.meets? (nodes ++ rest) i = s.meets? nodes i := by
  rw [meets?, agenda_append h, List.head?_append_of_ne_nil _ h, meets?]

lemma exists_meets?_eq (h : s.meets? nodes i = some m) :
    ∃ rest, ∀ j, s.meets? nodes (i + 1 + j) = s.meets? (s.children m ++ rest) j := by
  obtain ⟨rest, hrest⟩ := List.head?_eq_some_iff.mp h
  refine ⟨rest, fun j => ?_⟩
  rw [meets?, Nat.add_right_comm, Nat.add_assoc, agenda_add, hrest]
  rfl

namespace Reaches

lemma here : s.Reaches (m :: rest) m := ⟨0, rfl⟩

lemma before (h : s.Reaches nodes m) (rest : List NodeId) : s.Reaches (nodes ++ rest) m := by
  obtain ⟨i, hi⟩ := h
  have hne : s.agenda i nodes ≠ [] := fun hnil => by simp [meets?, hnil] at hi
  exact ⟨i, by rw [meets?_append hne, hi]⟩

lemma below (h : s.Reaches nodes n) (hm : s.Reaches (s.children n) m) : s.Reaches nodes m := by
  obtain ⟨i, hi⟩ := h
  obtain ⟨rest, hrest⟩ := exists_meets?_eq hi
  obtain ⟨j, hj⟩ := hm.before rest
  exact ⟨i + 1 + j, (hrest j).trans hj⟩

lemma behind (hm : s.Reaches rest m) (h : s.Passes nodes) : s.Reaches (nodes ++ rest) m := by
  obtain ⟨i, hi⟩ := h
  obtain ⟨j, hj⟩ := hm
  exact ⟨i + j, by rw [meets?, agenda_add, hi]; exact hj⟩

end Reaches

namespace Passes

lemma nil : s.Passes [] := ⟨0, fun _ => rfl⟩

lemma node (h : s.Passes (s.children n)) : s.Passes [n] := by
  obtain ⟨i, hi⟩ := h
  exact ⟨i + 1, hi⟩

lemma append (h : s.Passes nodes) (hrest : s.Passes rest) : s.Passes (nodes ++ rest) := by
  obtain ⟨i, hi⟩ := h
  obtain ⟨j, hj⟩ := hrest
  exact ⟨i + j, fun after => by rw [agenda_add, List.append_assoc, hi, hj]⟩

lemma of_forall (h : ∀ n ∈ nodes, s.Passes [n]) : s.Passes nodes := by
  induction nodes with
  | nil => exact .nil
  | cons n nodes ih =>
    obtain ⟨hn, hnodes⟩ := List.forall_mem_cons.mp h
    exact hn.append (ih hnodes)

lemma of_matches {t : Tree} (ht : t.Matches s) : s.Passes [t.id] := by
  induction ht with
  | node n children hids h ih =>
    refine .node (hids ▸ .of_forall fun c hc => ?_)
    obtain ⟨t, ht, rfl⟩ := List.mem_map.mp hc
    exact ih t ht

lemma of_not_cyclic (hs : s.WellFormed) (hn : ¬ s.Cyclic n) : s.Passes [n] := by
  obtain ⟨t, ht⟩ := exists_tree hs hn
  obtain ⟨rfl, hmatches⟩ := matches_of_tree? ht
  exact .of_matches hmatches

end Passes

section Search

lemma anyM_append {α : Type} (p : α → Option Bool) (l l' : List α) :
    (l ++ l').anyM p = (l.anyM p).bind fun found => if found then some true else l'.anyM p := by
  induction l with
  | nil => rfl
  | cons a l ih =>
    rw [List.cons_append, List.anyM_cons, List.anyM_cons, ih]
    rcases p a with _ | _ | _ <;> rfl

def finds (s : Store) (kind : Kind) (depth : ℕ) (n : NodeId) : Option Bool :=
  if s.kind n = kind then some true else s.hasWithin kind depth n

def ReachesKind (s : Store) (kind : Kind) (nodes : List NodeId) : Prop :=
  ∃ m, s.Reaches nodes m ∧ s.kind m = kind

def BearsOut (s : Store) (kind : Kind) (nodes : List NodeId) : Bool → Prop
  | true => s.ReachesKind kind nodes
  | false => s.Passes nodes

variable {depth : ℕ} {found : Bool}

lemma hasWithin_succ : s.hasWithin kind (depth + 1) n = (s.children n).anyM (s.finds kind depth) := rfl

lemma BearsOut.behind (hpast : s.Passes nodes) (h : s.BearsOut kind rest found) :
    s.BearsOut kind (nodes ++ rest) found := by
  cases found with
  | true =>
    obtain ⟨m, hm, hkind⟩ := h
    exact ⟨m, hm.behind hpast, hkind⟩
  | false => exact hpast.append h

lemma BearsOut.node (h : s.BearsOut kind (s.children n) found) : s.BearsOut kind [n] found := by
  cases found with
  | true =>
    obtain ⟨m, hm, hkind⟩ := h
    exact ⟨m, .below .here hm, hkind⟩
  | false => exact Passes.node h

lemma bearsOut_of_anyM {search : NodeId → Option Bool}
    (hsearch : ∀ n found, search n = some found → s.BearsOut kind [n] found)
    (h : nodes.anyM search = some found) : s.BearsOut kind nodes found := by
  induction nodes with
  | nil =>
    obtain rfl := Option.some.inj h
    exact .nil
  | cons n nodes ih =>
    rw [List.anyM_cons] at h
    obtain ⟨hit, hhit, h⟩ := Option.bind_eq_some_iff.mp h
    cases hit with
    | true =>
      obtain rfl := Option.some.inj h
      obtain ⟨m, hm, hkind⟩ := hsearch n true hhit
      exact ⟨m, hm.before nodes, hkind⟩
    | false => exact (ih h).behind (hsearch n false hhit)

lemma bearsOut_of_hasWithin (h : s.hasWithin kind depth n = some found) :
    s.BearsOut kind (s.children n) found := by
  induction depth generalizing n found with
  | zero => simp [hasWithin] at h
  | succ depth ih =>
    refine bearsOut_of_anyM (fun c hit hhit => ?_) (hasWithin_succ.symm.trans h)
    rw [finds] at hhit
    split_ifs at hhit with hkind
    · obtain rfl := Option.some.inj hhit
      exact ⟨c, .here, hkind⟩
    · exact (ih hhit).node

lemma anyM_finds_of_kind (hn : s.kind n = kind) (depth : ℕ) (rest : List NodeId) :
    (n :: rest).anyM (s.finds kind depth) = some true := by
  rw [List.anyM_cons, finds, if_pos hn]
  rfl

lemma anyM_finds_succ (h : nodes.anyM (s.finds kind depth) = some found) :
    nodes.anyM (s.finds kind (depth + 1)) = some found := by
  have hkeeps (n : NodeId) (_ : n ∈ nodes) :
      s.finds kind depth n = none ∨ s.finds kind (depth + 1) n = s.finds kind depth n := by
    simp only [finds]
    split_ifs
    · exact .inr rfl
    · exact (s.settles_hasWithin kind).keeps depth n
  rcases anyM_keeps hkeeps with hnone | hsame
  · exact absurd (hnone.symm.trans h) (by simp)
  · exact hsame.trans h

lemma exists_depth (h : s.meets? nodes i = some m) (hkind : s.kind m = kind) :
    ∃ depth, nodes.anyM (s.finds kind depth) = some true := by
  induction i generalizing nodes with
  | zero =>
    obtain ⟨rest, rfl⟩ := List.head?_eq_some_iff.mp h
    exact ⟨0, anyM_finds_of_kind hkind 0 rest⟩
  | succ i ih =>
    cases nodes with
    | nil => simp [meets?, agenda] at h
    | cons n rest =>
      by_cases hn : s.kind n = kind
      · exact ⟨0, anyM_finds_of_kind hn 0 rest⟩
      · obtain ⟨depth, hdepth⟩ : ∃ depth, (s.children n ++ rest).anyM (s.finds kind depth) = some true := ih h
        rw [anyM_append, ← hasWithin_succ] at hdepth
        obtain ⟨hit, hhit, hdepth⟩ := Option.bind_eq_some_iff.mp hdepth
        refine ⟨depth + 1, ?_⟩
        rw [List.anyM_cons, finds, if_neg hn, hhit, Option.bind_eq_bind, Option.bind_some]
        cases hit with
        | true => rfl
        | false => exact anyM_finds_succ hdepth

lemma has?_eq_some_true_iff : s.has? kind n = some true ↔ s.ReachesKind kind (s.children n) := by
  constructor
  · exact fun h => bearsOut_of_hasWithin h
  · rintro ⟨m, ⟨i, hi⟩, hkind⟩
    obtain ⟨depth, hdepth⟩ := exists_depth hi hkind
    rw [← hasWithin_succ] at hdepth
    have hne : s.hasWithin kind (depth + 1) n ≠ none := by simp [hdepth]
    rw [has?, ← (s.settles_hasWithin kind).eq_of_ne_nothing hne, hdepth]

end Search

section Cyclic

lemma Cyclic.agenda_ne_nil (hs : s.WellFormed) (hm : s.Cyclic m) (hmem : m ∈ nodes) (i : ℕ) :
    s.agenda i nodes ≠ [] := by
  induction i generalizing nodes m with
  | zero => exact List.ne_nil_of_mem hmem
  | succ i ih =>
    cases nodes with
    | nil => simp at hmem
    | cons n rest =>
      rcases List.mem_cons.mp hmem with rfl | hrest
      · obtain ⟨c, hc, hcyclic⟩ := hm.exists_child
        exact ih hcyclic (List.mem_append_left _ ((hs.mem_children_iff m c).mpr hc))
      · exact ih hm (List.mem_append_right _ hrest)

variable (hs : s.WellFormed)

include hs

lemma Cyclic.agenda_children_ne_nil (hn : s.Cyclic n) (i : ℕ) : s.agenda i (s.children n) ≠ [] := by
  obtain ⟨c, hc, hcyclic⟩ := hn.exists_child
  exact hcyclic.agenda_ne_nil hs ((hs.mem_children_iff n c).mpr hc) i

lemma Cyclic.reaches_of_parent? (hm : s.Cyclic m) (hp : s.parent? m = some n) : s.Reaches (s.children n) m := by
  obtain ⟨left, right, heq, hleft⟩ := List.eq_append_cons_of_mem ((hs.mem_children_iff n m).mpr hp)
  rw [heq]
  -- the children before `m` are on no cycle, so the walk gets past them
  refine Reaches.here.behind (.of_forall fun c hc => .of_not_cyclic hs fun hcyclic => hleft ?_)
  have hparent : s.parent? c = some n := (hs.mem_children_iff n c).mp (heq ▸ List.mem_append_left _ hc)
  rwa [← hcyclic.unique hm hparent hp]

lemma Cyclic.reaches_of_below (hm : s.Cyclic m) (h : s.Below m n) : s.Reaches (s.children n) m := by
  obtain ⟨p, hp, hclimbs⟩ := h
  induction hclimbs using Relation.ReflTransGen.head_induction_on generalizing m with
  | refl => exact hm.reaches_of_parent? hs hp
  | head hpq _ ih => exact (ih (hm.climbs (.of_parent? hp)) hpq).below (hm.reaches_of_parent? hs hp)

lemma Cyclic.exists_return (hc : s.Cyclic c) : ∃ i, s.meets? (s.children c) i = some c :=
  hc.reaches_of_below hs hc

lemma Cyclic.meets?_of_return (hc : s.Cyclic c) (h : s.meets? (s.children c) i = some c) (j : ℕ) :
    s.meets? (s.children c) (i + 1 + j) = s.meets? (s.children c) j := by
  obtain ⟨rest, hrest⟩ := exists_meets?_eq h
  rw [hrest, meets?_append (hc.agenda_children_ne_nil hs j)]

lemma Cyclic.meetsByReturn_iff (hc : s.Cyclic c) :
    s.MeetsByReturn kind c ↔ s.ReachesKind kind (s.children c) := by
  constructor
  · rintro ⟨i, m, hi, hkind, -⟩
    exact ⟨m, ⟨i, hi⟩, hkind⟩
  · rintro ⟨m, ⟨i, hi⟩, hkind⟩
    induction i using Nat.strong_induction_on with
    | _ i ih =>
      by_cases hreturn : ∃ j < i, s.meets? (s.children c) j = some c
      · obtain ⟨j, hlt, hj⟩ := hreturn
        obtain ⟨k, rfl⟩ := Nat.exists_eq_add_of_lt hlt
        rw [Nat.add_right_comm, hc.meets?_of_return hs hj] at hi
        exact ih k (by omega) hi
      · push Not at hreturn
        exact ⟨i, m, hi, hkind, hreturn⟩

lemma Cyclic.has?_ne_some_false (hc : s.Cyclic c) : s.has? kind c ≠ some false := by
  intro hfound
  obtain ⟨i, hi⟩ : s.Passes (s.children c) := bearsOut_of_hasWithin hfound
  exact hc.agenda_children_ne_nil hs i (by simpa using hi [])

end Cyclic

end SlideDeck.Store
