import SlideDeck.Proofs.Markup

/-! Texts whose braces are balanced. Reading such a text comes back to the depth of open braces at which it
begins, and the light markup keeps that. -/

namespace SlideDeck.Braces

/-- No start of the text has more closing braces than opening ones, and the text has as many of both. -/
def Balanced (text : String) : Prop :=
  (∀ start, start <+: text.toList → start.count '\x7d' ≤ start.count '\x7b') ∧
    text.toList.count '\x7b' = text.toList.count '\x7d'

def Braceless (text : String) : Prop := '\x7b' ∉ text.toList ∧ '\x7d' ∉ text.toList

instance (text : String) : Decidable (Braceless text) := inferInstanceAs (Decidable (_ ∧ _))

def pass (depth : Nat) (c : Char) : Option Nat :=
  if c = '\x7b' then some (depth + 1)
  else if c = '\x7d' then if depth = 0 then none else some (depth - 1)
  else some depth

def Leads (j : Nat) (text : String) (k : Nat) : Prop := text.toList.foldlM pass j = some k

instance (j k : Nat) (text : String) : Decidable (Leads j text k) :=
  inferInstanceAs (Decidable (_ = _))

section Chars

variable {j k : Nat} {text : List Char}

lemma pass_eq_some (c : Char) : pass j c = some k ↔
    [c].count '\x7d' ≤ j + [c].count '\x7b' ∧ k + [c].count '\x7d' = j + [c].count '\x7b' := by
  rw [pass]
  by_cases hopens : c = '\x7b'
  · subst hopens
    simp [eq_comm]
  · by_cases hcloses : c = '\x7d'
    · subst hcloses
      simp
      omega
    · simp [hopens, hcloses, eq_comm]

lemma foldlM_pass_eq_some : text.foldlM pass j = some k ↔
    (∀ start, start <+: text → start.count '\x7d' ≤ j + start.count '\x7b') ∧
      k + text.count '\x7d' = j + text.count '\x7b' := by
  induction text generalizing j with
  | nil => simp [pure, eq_comm]
  | cons c rest ih =>
    have hcons (brace : Char) (t : List Char) :
        (c :: t).count brace = [c].count brace + t.count brace := by
      rw [← List.count_append, List.singleton_append]
    rw [List.foldlM_cons, Option.bind_eq_bind, Option.bind_eq_some_iff]
    constructor
    · rintro ⟨l, hpass, hrest⟩
      obtain ⟨hc, hl⟩ := (pass_eq_some c).mp hpass
      obtain ⟨hstarts, htotal⟩ := ih.mp hrest
      refine ⟨fun start hstart => ?_, ?_⟩
      · rcases List.prefix_cons_iff.mp hstart with rfl | ⟨t, rfl, ht⟩
        · simp
        · have hbound := hstarts t ht
          rw [hcons '\x7d', hcons '\x7b']
          omega
      · rw [hcons '\x7d', hcons '\x7b']
        omega
    · rintro ⟨hstarts, htotal⟩
      have hc := hstarts [c] (by simp)
      rw [hcons '\x7d', hcons '\x7b'] at htotal
      refine ⟨j + [c].count '\x7b' - [c].count '\x7d', (pass_eq_some c).mpr ⟨hc, by omega⟩,
        ih.mpr ⟨fun t ht => ?_, by omega⟩⟩
      have hbound := hstarts (c :: t) (List.prefix_cons_iff.mpr (.inr ⟨t, rfl, ht⟩))
      rw [hcons '\x7d', hcons '\x7b'] at hbound
      omega

lemma foldlM_pass_deeper (h : text.foldlM pass j = some k) (i : Nat) :
    text.foldlM pass (j + i) = some (k + i) := by
  rw [foldlM_pass_eq_some] at h ⊢
  refine ⟨fun start hstart => ?_, by omega⟩
  have hbound := h.1 start hstart
  omega

lemma foldlM_pass_of_not_mem (hopens : '\x7b' ∉ text) (hcloses : '\x7d' ∉ text) :
    text.foldlM pass j = some j := by
  rw [foldlM_pass_eq_some, List.count_eq_zero.mpr hopens, List.count_eq_zero.mpr hcloses]
  refine ⟨fun start hstart => ?_, rfl⟩
  rw [List.count_eq_zero.mpr fun h => hcloses (hstart.subset h)]
  exact Nat.zero_le _

end Chars

section Leads

variable {j k l : Nat} {a b c text : String}

lemma balanced_iff_leads : Balanced text ↔ Leads 0 text 0 := by
  rw [Leads, foldlM_pass_eq_some, Balanced]
  simp [eq_comm]

instance (text : String) : Decidable (Balanced text) := decidable_of_iff _ balanced_iff_leads.symm

lemma Leads.append (ha : Leads j a k) (hb : Leads k b l) : Leads j (a ++ b) l := by
  simp [Leads, show a.toList.foldlM pass j = some k from ha,
    show b.toList.foldlM pass k = some l from hb]

lemma Leads.deeper (h : Leads j text k) (i : Nat) : Leads (j + i) text (k + i) := foldlM_pass_deeper h i

lemma Balanced.leads (h : Balanced text) (j : Nat) : Leads j text j := by
  simpa using (balanced_iff_leads.mp h).deeper j

lemma Balanced.append (ha : Balanced a) (hb : Balanced b) : Balanced (a ++ b) :=
  balanced_iff_leads.mpr ((ha.leads 0).append (hb.leads 0))

lemma Balanced.before (ha : Balanced a) (hb : Leads j b k) : Leads j (a ++ b) k :=
  (ha.leads j).append hb

lemma Leads.before (ha : Leads j a k) (hb : Balanced b) : Leads j (a ++ b) k := ha.append (hb.leads k)

lemma Braceless.balanced (h : Braceless text) : Balanced text :=
  balanced_iff_leads.mpr (foldlM_pass_of_not_mem h.1 h.2)

lemma Braceless.append (ha : Braceless a) (hb : Braceless b) : Braceless (a ++ b) := by
  simp [Braceless, ha.1, ha.2, hb.1, hb.2]

lemma balanced_join {texts : List String} (h : ∀ text ∈ texts, Balanced text) :
    Balanced (String.join texts) := by
  induction texts with
  | nil => decide
  | cons text rest ih =>
    rw [List.forall_mem_cons] at h
    rw [String.join_cons]
    exact h.1.append (ih h.2)

lemma balanced_intercalate (ha : Balanced a) {texts : List String} (h : ∀ text ∈ texts, Balanced text) :
    Balanced (a.intercalate texts) := by
  induction texts with
  | nil => exact show Balanced "" by decide
  | cons text rest ih =>
    rw [List.forall_mem_cons] at h
    cases rest with
    | nil => simpa using h.1
    | cons next rest =>
      rw [String.intercalate_cons_cons]
      exact (h.1.append ha).append (ih h.2)

end Leads

end SlideDeck.Braces

namespace SlideDeck.Markup

open Braces

variable {text out old new : List Char} {j k : Nat}

lemma foldlM_pass_ellipsis (h : EllipsisRule old new) (hold : old.foldlM pass j = some k) :
    new.foldlM pass j = some k := by
  obtain ⟨rfl, rfl⟩ := h
  rw [foldlM_pass_of_not_mem (by decide) (by decide)] at hold
  obtain rfl := Option.some.inj hold
  simpa using foldlM_pass_deeper (show ellipsis.foldlM pass 0 = some 0 by decide) j

lemma foldlM_pass_delimiter {d : Delimiter} (hmark : [d.mark].foldlM pass 0 = some 0)
    (hcommand : d.command.foldlM pass 0 = some 0) (h : d.Rule old new)
    (hold : old.foldlM pass j = some k) : new.foldlM pass j = some k := by
  obtain ⟨body, -, -, rfl, rfl⟩ := h
  have hmark (j : Nat) : [d.mark].foldlM pass j = some j := by simpa using foldlM_pass_deeper hmark j
  have hbody : body.foldlM pass j = some k := by
    rw [← List.singleton_append, List.foldlM_append, List.foldlM_append, hmark] at hold
    cases hb : body.foldlM pass j with
    | none => simp [hb] at hold
    | some l => simpa [hb, hmark] using hold
  have hdeeper := foldlM_pass_deeper hbody 1
  have hcommand := foldlM_pass_deeper hcommand j
  rw [Nat.zero_add] at hcommand
  simp [Delimiter.wrap, List.foldlM_append, hcommand, hdeeper, Braces.pass]

lemma Rewrites.foldlM_pass {rule : List Char → List Char → Prop}
    (hrule : ∀ old new j k, rule old new → old.foldlM pass j = some k → new.foldlM pass j = some k)
    (h : Rewrites rule text out) (htext : text.foldlM pass j = some k) :
    out.foldlM pass j = some k := by
  induction h generalizing j with
  | nil => exact htext
  | keep c _ ih =>
    rw [List.foldlM_cons, Option.bind_eq_bind, Option.bind_eq_some_iff] at htext ⊢
    obtain ⟨l, hc, hrest⟩ := htext
    exact ⟨l, hc, ih hrest⟩
  | replace hr _ ih =>
    rw [List.foldlM_append, Option.bind_eq_bind, Option.bind_eq_some_iff] at htext ⊢
    obtain ⟨l, hold, hrest⟩ := htext
    exact ⟨l, hrule _ _ _ _ hr hold, ih hrest⟩

end SlideDeck.Markup

namespace SlideDeck

open Braces Markup

lemma balanced_translate {text : String} (h : Balanced text) : Balanced (translate text) := by
  rw [balanced_iff_leads, Leads] at h ⊢
  rw [translate, String.toList_ofList]
  refine translateChars_induction (P := fun text => text.foldlM pass 0 = some 0) (fun _ _ hdots htext => ?_)
    (fun d hd _ _ hpairs htext => ?_) _ h
  · exact hdots.foldlM_pass (fun _ _ _ _ => foldlM_pass_ellipsis) htext
  · have hplain : [d.mark].foldlM pass 0 = some 0 ∧ d.command.foldlM pass 0 = some 0 := by
      rcases List.mem_pair.mp hd with rfl | rfl <;> decide
    exact hpairs.foldlM_pass (fun _ _ _ _ => foldlM_pass_delimiter hplain.1 hplain.2) htext

end SlideDeck
