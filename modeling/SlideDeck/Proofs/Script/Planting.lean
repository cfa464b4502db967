import SlideDeck.Proofs.Script.Ownership

/-! What containers receive. Nodes that are put first come to stand before what a container holds, the latest
first, and nodes that are put last after it; all that is made at once with its place is such a list of nodes. -/

namespace SlideDeck.Script

def putIn (log : List Attachment) (c : NodeId) (place : Place) : List NodeId :=
  log.filterMap fun a => if a.container = c ∧ a.place = place then some a.node else none

@[simp] lemma putIn_nil (c : NodeId) (place : Place) : putIn [] c place = [] := rfl

@[simp] lemma putIn_append (log more : List Attachment) (c : NodeId) (place : Place) :
    putIn (log ++ more) c place = putIn log c place ++ putIn more c place :=
  List.filterMap_append

lemma putIn_singleton (a : Attachment) (c : NodeId) (place : Place) :
    putIn [a] c place = if a.container = c ∧ a.place = place then [a.node] else [] := by
  rw [putIn, List.filterMap_cons, List.filterMap_nil]
  split_ifs <;> rfl

def Receives (s : Store) (log : List Attachment) (t : Store) : Prop :=
  ∀ c, t.children c = (putIn log c .first).reverse ++ s.children c ++ putIn log c .last

namespace Receives

variable {s t u : Store} {log more : List Attachment}

lemma refl (s : Store) : Receives s [] s := by
  intro c
  simp

lemma of_sameShape (h : s.SameShape t) : Receives s [] t := by
  intro c
  simp [h.children c]

lemma trans (h : Receives s log t) (h' : Receives t more u) : Receives s (log ++ more) u := by
  intro c
  rw [h' c, h c]
  simp

lemma isInfix (h : Receives s log t) (c : NodeId) : s.children c <:+: t.children c :=
  ⟨_, _, (h c).symm⟩

lemma link {c n : NodeId} (place : Place) (hc : c < s.size) :
    Receives s [⟨c, n, place⟩] (s.link c n place) := by
  intro d
  rw [Store.children_link _ _ _ hc, putIn_singleton, putIn_singleton]
  by_cases hd : d = c
  · subst hd
    cases place <;> simp [Place.insert]
  · simp [hd, Ne.symm hd]

lemma children_of_singleton {a : Attachment} (h : Receives s [a] t) :
    t.children a.container = a.place.insert a.node (s.children a.container) := by
  rw [h a.container, putIn_singleton, putIn_singleton]
  cases a.place <;> simp [Place.insert]

end Receives

end SlideDeck.Script

namespace SlideDeck

open Script (Attachment Receives putIn putIn_singleton)

def Draft.span (draft : Draft) : Nat := if draft.listing?.isSome then 2 else 1

def Draft.attachments (draft : Draft) (n : NodeId) : List Attachment :=
  if draft.listing?.isSome then [⟨n, n + 1, .last⟩] else []

structure Planting where
  container : NodeId
  draft : Draft
  place : Place := .last

def plantingAttachments : NodeId → List Planting → List Attachment
  | _, [] => []
  | n, p :: ps => p.draft.attachments n ++ ⟨p.container, n, p.place⟩ ::
      plantingAttachments (n + p.draft.span) ps

def plantingSpan : List Planting → Nat
  | [] => 0
  | p :: ps => p.draft.span + plantingSpan ps

def AllFit : NodeId → List Planting → Prop
  | _, [] => True
  | n, p :: ps => p.container < n ∧ AllFit (n + p.draft.span) ps

lemma plantingAttachments_append (n : NodeId) (ps qs : List Planting) :
    plantingAttachments n (ps ++ qs) =
      plantingAttachments n ps ++ plantingAttachments (n + plantingSpan ps) qs := by
  induction ps generalizing n with
  | nil => rfl
  | cons p ps ih => simp [plantingAttachments, plantingSpan, ih, Nat.add_assoc]

lemma allFit_append {n : NodeId} {ps qs : List Planting} :
    AllFit n (ps ++ qs) ↔ AllFit n ps ∧ AllFit (n + plantingSpan ps) qs := by
  induction ps generalizing n with
  | nil => simp [AllFit, plantingSpan]
  | cons p ps ih => simp [AllFit, plantingSpan, ih, and_assoc, Nat.add_assoc]

lemma allFit_of_lt {n : NodeId} {ps : List Planting} (h : ∀ p ∈ ps, p.container < n) : AllFit n ps := by
  induction ps generalizing n with
  | nil => trivial
  | cons p ps ih =>
    refine ⟨h p List.mem_cons_self, ih fun q hq => ?_⟩
    exact Nat.lt_of_lt_of_le (h q (List.mem_cons_of_mem _ hq)) (Nat.le_add_right n _)

def Draft.plantings (c : NodeId) (drafts : List Draft) : List Planting :=
  drafts.map fun draft => { container := c, draft }

lemma Draft.allFit_plantings {c n : NodeId} (hc : c < n) (drafts : List Draft) :
    AllFit n (Draft.plantings c drafts) := by
  refine allFit_of_lt fun p hp => ?_
  obtain ⟨draft, -, rfl⟩ := List.mem_map.mp hp
  exact hc

namespace Store

variable (s : Store)

def plant (p : Planting) : Store := (s.createIn p.container p.draft p.place).1

def plantAll (ps : List Planting) : Store := ps.foldl plant s

lemma size_plant (p : Planting) : (s.plant p).size = s.size + p.draft.span := by
  rw [plant, createIn_fst, size_link, size_create, Draft.span]
  split <;> rfl

lemma size_plantAll (ps : List Planting) : (s.plantAll ps).size = s.size + plantingSpan ps := by
  induction ps generalizing s with
  | nil => rfl
  | cons p ps ih =>
    have hplanted : s.plantAll (p :: ps) = (s.plant p).plantAll ps := rfl
    rw [hplanted, ih, size_plant]
    simp [plantingSpan, Nat.add_assoc]

lemma plantAll_append (ps qs : List Planting) : s.plantAll (ps ++ qs) = (s.plantAll ps).plantAll qs :=
  List.foldl_append

lemma createIn_fst_eq_plantAll (c : NodeId) (draft : Draft) (place : Place) :
    (s.createIn c draft place).1 = s.plantAll [{ container := c, draft, place }] := rfl

lemma createAllIn_eq_plantAll (c : NodeId) (drafts : List Draft) :
    s.createAllIn c drafts = s.plantAll (Draft.plantings c drafts) := by
  rw [createAllIn, plantAll, Draft.plantings, List.foldl_map]
  rfl

lemma receives_create (draft : Draft) : Receives s (draft.attachments s.size) (s.create draft).1 := by
  intro c
  rw [children_create, Draft.attachments]
  cases draft.listing?.isSome with
  | false => simp
  | true =>
    by_cases hc : c = s.size
    · have hnil : s.children s.size = [] := by simp [children, node_of_size_le]
      simp [putIn_singleton, hc, hnil]
    · simp [putIn_singleton, hc, Ne.symm hc]

lemma receives_plant {p : Planting} (hp : p.container < s.size) :
    Receives s (p.draft.attachments s.size ++ [⟨p.container, s.size, p.place⟩]) (s.plant p) := by
  rw [plant, createIn_fst]
  exact (s.receives_create p.draft).trans
    (.link p.place (Nat.lt_trans hp (size_lt_size_create s p.draft)))

lemma receives_plantAll {ps : List Planting} (hps : AllFit s.size ps) :
    Receives s (plantingAttachments s.size ps) (s.plantAll ps) := by
  induction ps generalizing s with
  | nil => exact .refl s
  | cons p ps ih =>
    have hsize := s.size_plant p
    have h := ih (s.plant p) (hsize ▸ hps.2)
    rw [hsize] at h
    have h := (s.receives_plant hps.1).trans h
    rwa [List.append_assoc] at h

lemma receives_createAllIn {c : NodeId} (hc : c < s.size) (drafts : List Draft) :
    Receives s (plantingAttachments s.size (Draft.plantings c drafts)) (s.createAllIn c drafts) := by
  rw [createAllIn_eq_plantAll]
  exact s.receives_plantAll (Draft.allFit_plantings hc drafts)

end Store

end SlideDeck
