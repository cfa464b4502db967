import Mathlib.Data.List.Flatten
import Mathlib.Data.List.Pairwise
import SlideDeck.Proofs.Settings.Declared

/-! Reports of the violations in a datum: whether they are those of a predicate, and in which order they come. -/

namespace SlideDeck

def PathStep.rank (names : List String) : PathStep → Int
  | .field name => names.idxOf name
  | .index n => n

namespace Path

def namesAt (names : List String) : Path → List String
  | [] => names
  | _ :: _ => Declared.package.fieldNames

def Before (names : List String) (p q : Path) : Prop :=
  ∃ path s t below below', p = path ++ s :: below ∧ q = path ++ t :: below' ∧
    s.rank (namesAt names path) < t.rank (namesAt names path)

lemma not_before_self (names : List String) (p : Path) : ¬ Before names p p := by
  rintro ⟨path, s, t, below, below', hs, ht, hlt⟩
  obtain ⟨rfl, -⟩ := List.cons.inj (List.append_cancel_left (hs.symm.trans ht))
  exact Int.lt_irrefl _ hlt

end Path

namespace Checked

def violations {α : Type} : Checked α → List Violation
  | .ok _ => []
  | .error violations => violations

def Explained {α : Type} (c : Checked α) : Prop := c.violations = [] → ∃ a, c = .ok a

variable {α β : Type}

@[simp] lemma violations_map (c : Checked α) (f : α → β) : violations (c.map f) = c.violations := by
  cases c <;> rfl

@[simp] lemma violations_and (c : Checked α) (d : Checked β) :
    (c.and d).violations = c.violations ++ d.violations := by
  rcases c with v | a <;> rcases d with w | b <;> simp [Checked.and, violations]

lemma Explained.map {c : Checked α} (h : c.Explained) (f : α → β) : Explained (c.map f) := by
  intro hnone
  obtain ⟨a, rfl⟩ := h ((violations_map c f).symm.trans hnone)
  exact ⟨f a, rfl⟩

lemma Explained.and {c : Checked α} {d : Checked β} (hc : c.Explained) (hd : d.Explained) :
    (c.and d).Explained := by
  intro hnone
  rw [violations_and, List.append_eq_nil_iff] at hnone
  obtain ⟨a, rfl⟩ := hc hnone.1
  obtain ⟨b, rfl⟩ := hd hnone.2
  exact ⟨(a, b), rfl⟩

lemma explained_ok (a : α) : Explained (.ok a) := fun _ => ⟨a, rfl⟩

lemma explained_fail (path : Path) (rule : Rule) : (fail path rule : Checked α).Explained := nofun

lemma violations_eq_nil_of_error {c : Checked α} (h : c.Explained) {vs : List Violation} (hc : c = .error vs) :
    vs ≠ [] := by
  rintro rfl
  obtain ⟨a, ha⟩ := h (hc ▸ rfl)
  cases ha.symm.trans hc

end Checked

structure Finds (names : List String) (path : Path) (breaks : Path → Rule → Prop) (found : List Violation) :
    Prop where
  mem_iff : ∀ violation, violation ∈ found ↔ ∃ rest, violation.path = path ++ rest ∧ breaks rest violation.rule
  ordered : found.Pairwise fun v w => Path.Before names v.path w.path

structure Part where
  step : PathStep
  found : List Violation
  breaks : Path → Rule → Prop

namespace Finds

variable {names : List String} {path : Path} {breaks : Path → Rule → Prop} {found : List Violation}

lemma congr {breaks' : Path → Rule → Prop} (h : Finds names path breaks found)
    (hiff : ∀ rest rule, breaks' rest rule ↔ breaks rest rule) : Finds names path breaks' found where
  mem_iff violation := by simp only [h.mem_iff, hiff]
  ordered := h.ordered

lemma nil (h : ∀ rest rule, ¬ breaks rest rule) : Finds names path breaks [] where
  mem_iff := by simp [h]
  ordered := .nil

lemma single {rule : Rule} (h : ∀ rest rule', breaks rest rule' ↔ rest = [] ∧ rule' = rule) :
    Finds names path breaks [⟨path, rule⟩] where
  mem_iff := by
    rintro ⟨at', rule'⟩
    simp [h]
  ordered := List.pairwise_singleton ..

lemma parts {parts : List Part} (hfinds : ∀ part ∈ parts, Finds names (path ++ [part.step]) part.breaks part.found)
    (hsorted : parts.Pairwise fun a b =>
      a.step.rank (path.namesAt names) < b.step.rank (path.namesAt names)) :
    Finds names path (fun rest rule => ∃ part ∈ parts, ∃ below, rest = part.step :: below ∧ part.breaks below rule)
      (parts.flatMap Part.found) where
  mem_iff violation := by
    rw [List.mem_flatMap]
    constructor
    · rintro ⟨part, hpart, hmem⟩
      obtain ⟨below, hpath, hbreaks⟩ := ((hfinds part hpart).mem_iff violation).mp hmem
      exact ⟨part.step :: below, by simpa using hpath, part, hpart, below, rfl, hbreaks⟩
    · rintro ⟨-, hpath, part, hpart, below, rfl, hbreaks⟩
      exact ⟨part, hpart, ((hfinds part hpart).mem_iff violation).mpr ⟨below, by simpa using hpath, hbreaks⟩⟩
  ordered := by
    rw [List.pairwise_flatMap]
    refine ⟨fun part hpart => (hfinds part hpart).ordered, hsorted.imp_of_mem ?_⟩
    intro a b ha hb hlt v hv w hw
    obtain ⟨below, hv, -⟩ := ((hfinds a ha).mem_iff v).mp hv
    obtain ⟨below', hw, -⟩ := ((hfinds b hb).mem_iff w).mp hw
    exact ⟨path, a.step, b.step, below, below', by simpa using hv, by simpa using hw, hlt⟩

lemma nodup (h : Finds names path breaks found) : (found.map Violation.path).Nodup := by
  refine List.pairwise_map.mpr (h.ordered.imp ?_)
  intro v w hbefore heq
  rw [heq] at hbefore
  exact Path.not_before_self _ _ hbefore

end Finds

end SlideDeck
