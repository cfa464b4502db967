import Mathlib.Tactic.Lemma
import Mathlib.Tactic.SplitIfs
import SlideDeck.Script.Session

/-! What names stand for where names have been bound. -/

namespace SlideDeck.Script.Session

variable {s t : Session}

lemma lookup_eq_ok_iff {name : String} {e : Entity} : s.lookup name = .ok e ↔ s.names.lookup name = some e := by
  rw [lookup]
  cases s.names.lookup name <;> simp

lemma lookup_congr (h : t.names = s.names) (name : String) : t.lookup name = s.lookup name := by
  rw [lookup, lookup, h]

section

variable {name other : String} (e f : Entity) (l : List (String × Entity))

lemma lookup_bindName : (bindName name e l).lookup name = some e := by
  induction l with
  | nil => simp [bindName]
  | cons entry rest ih =>
    rw [bindName]
    split_ifs with hname
    · simp
    · rwa [List.lookup_cons, beq_false_of_ne (Ne.symm hname)]

lemma lookup_bindName_of_ne (h : other ≠ name) : (bindName name e l).lookup other = l.lookup other := by
  induction l with
  | nil => simp [bindName, h]
  | cons entry rest ih =>
    rw [bindName]
    split_ifs with hname
    · rw [List.lookup_cons, List.lookup_cons, hname, beq_false_of_ne h]
    · rw [List.lookup_cons, List.lookup_cons, ih]

lemma bindName_bindName : bindName name e (bindName name f l) = bindName name e l := by
  induction l with
  | nil => simp [bindName]
  | cons entry rest ih =>
    rw [bindName]
    split_ifs with hname
    · rw [bindName, if_pos rfl, bindName, if_pos hname]
    · rw [bindName, if_neg hname, bindName, if_neg hname, ih]

variable {e l}

lemma bindName_of_lookup (h : l.lookup name = some e) : bindName name e l = l := by
  induction l with
  | nil => cases h
  | cons entry rest ih =>
    rw [bindName]
    split_ifs with hname
    · rw [List.lookup_cons, hname, beq_self_eq_true, Option.some.injEq] at h
      rw [← h, ← hname]
    · rw [List.lookup_cons, beq_false_of_ne (Ne.symm hname)] at h
      rw [ih h]

lemma bindName_comm (hne : name ≠ other) (h : l.lookup name = some e) (a : Entity) :
    bindName name a (bindName other f l) = bindName other f (bindName name a l) := by
  induction l with
  | nil => cases h
  | cons entry rest ih =>
    by_cases hname : entry.1 = name
    · have hother : ¬ entry.1 = other := fun heq => hne (hname.symm.trans heq)
      rw [bindName, if_neg hother, bindName, if_pos hname, bindName, if_pos hname, bindName, if_neg hne]
    · rw [List.lookup_cons, beq_false_of_ne (Ne.symm hname)] at h
      by_cases hother : entry.1 = other
      · simp only [bindName, hother, if_pos, if_neg (Ne.symm hne)]
      · simp only [bindName, hother, hname, if_false, ih h]

end

lemma lookup_bind (s : Session) (name : String) (e : Entity) : (s.bind (some name) e).lookup name = .ok e :=
  lookup_eq_ok_iff.mpr (lookup_bindName e s.names)

lemma lookup_bind_of_ne {name? : Option String} {other : String} (h : ∀ name ∈ name?, other ≠ name) (e : Entity) :
    (s.bind name? e).lookup other = s.lookup other := by
  cases name? with
  | none => rfl
  | some name => rw [lookup, lookup, bind, lookup_bindName_of_ne e _ (h name rfl)]

lemma bind_of_lookup {name : String} {e : Entity} (h : s.lookup name = .ok e) : s.bind (some name) e = s := by
  rw [bind, bindName_of_lookup (lookup_eq_ok_iff.mp h)]

lemma bind_rebind {name : String} {name? : Option String} (hne : ∀ other ∈ name?, name ≠ other) (e f a : Entity) :
    (((s.bind (some name) e).bind name? f).bind (some name) a) = (s.bind (some name) a).bind name? f := by
  cases name? with
  | none => simp only [bind, bindName_bindName]
  | some other => simp only [bind, bindName_comm f (hne other rfl) (lookup_bindName e s.names), bindName_bindName]

end SlideDeck.Script.Session
