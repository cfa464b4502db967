import Mathlib.Algebra.Group.Nat.Even
import SlideDeck.Proofs.Markup.Repetition

/-! Translation of a text that goes on. Where the marks of a text are paired among themselves, what comes
behind it changes nothing in how they are read. -/

namespace SlideDeck

namespace Markup

def Apart (mark : Char) (text : List Char) : Prop := text.IsChain fun c next => c = mark → next ≠ mark

variable {d e : Delimiter} {c mark : Char} {inside : Bool} {text left out : List Char}
  {rule : List Char → List Char → Prop}

lemma apart_of_not_doubled (h : ¬ [mark, mark] <:+: text) : Apart mark text :=
  (List.isChain_isInfix text).imp fun _ _ hin hc hnext => h (by rwa [hc, hnext] at hin)

lemma apart_of_not_mem (h : mark ∉ text) : Apart mark text :=
  apart_of_not_doubled fun hin => h (hin.subset (by simp))

lemma Rewrites.apart (hrule : ∀ old new, rule old new → new ≠ [] ∧ mark ∉ new)
    (h : Rewrites rule text out) (hapart : Apart mark text) : Apart mark out := by
  induction h with
  | nil => exact .nil
  | @keep c text out hrest ih =>
    obtain ⟨hnext, hafter⟩ := List.isChain_cons.mp hapart
    refine List.isChain_cons.mpr ⟨fun next hhead hc => ?_, ih hafter⟩
    cases hrest with
    | nil => simp at hhead
    | keep => exact hnext next hhead hc
    | replace hr =>
      obtain ⟨hne, hnew⟩ := hrule _ _ hr
      rw [List.head?_append_of_ne_nil _ hne] at hhead
      exact fun heq => hnew (heq ▸ List.mem_of_mem_head? hhead)
  | @replace old new text out hr _ ih =>
    have hnew := (hrule _ _ hr).2
    refine List.isChain_append.mpr ⟨apart_of_not_mem hnew, ih hapart.right_of_append, ?_⟩
    exact fun last hlast _ _ hmark => absurd (hmark ▸ List.mem_of_mem_getLast? hlast) hnew

namespace Delimiter

/-- Read from inside a pair or from outside, each mark of the text closes a pair or opens one, and the text
ends outside of all pairs. -/
structure Paired (d : Delimiter) (inside : Bool) (text : List Char) : Prop where
  apart : Apart d.mark text
  even : Even (text.count d.mark + inside.toNat)

def TurnRule (d : Delimiter) (old new : List Char) : Prop :=
  old = [d.mark] ∧ ∃ inside rest, new = (d.turn inside rest).1

lemma rewrites_walk (inside : Bool) (text : List Char) : Rewrites d.TurnRule text (d.walk inside text) := by
  induction text generalizing inside with
  | nil => exact .nil
  | cons c text ih =>
    by_cases hc : c = d.mark
    · subst hc
      have hturn : d.TurnRule [d.mark] (d.turn inside text).1 := ⟨rfl, inside, text, rfl⟩
      rw [walk_mark]
      exact .replace hturn (ih _)
    · rw [walk_cons hc]
      exact .keep c (ih inside)

lemma paired_of_not_mem (h : d.mark ∉ text) : d.Paired false text where
  apart := apart_of_not_mem h
  even := by simp [List.count_eq_zero_of_not_mem h]

namespace Paired

lemma eq_false_of_nil (h : d.Paired inside []) : inside = false := by
  have heven := h.even
  cases inside with
  | false => rfl
  | true => simp at heven

lemma tail (hc : c ≠ d.mark) (h : d.Paired inside (c :: text)) : d.Paired inside text where
  apart := (List.isChain_cons.mp h.apart).2
  even := by simpa [hc] using h.even

lemma tail_mark (h : d.Paired inside (d.mark :: text)) : d.Paired (!inside) text where
  apart := (List.isChain_cons.mp h.apart).2
  even := by
    have heven := h.even
    rw [List.count_cons_self] at heven
    cases inside with
    | false => exact heven
    | true => simpa [Nat.even_add_one] using heven

lemma turn_append (h : d.Paired inside (d.mark :: text)) (right : List Char) :
    d.turn inside (text ++ right) = if inside then (['\x7d'], false) else (d.command ++ ['\x7b'], true) := by
  cases inside with
  | true => rfl
  | false =>
    have hmem : d.mark ∈ text := by
      by_contra hmem
      have heven := h.tail_mark.even
      simp [List.count_eq_zero_of_not_mem hmem] at heven
    have hnext := (List.isChain_cons.mp h.apart).1
    have hopens : d.Opens (text ++ right) := by
      obtain ⟨first, rest, rfl⟩ := List.exists_cons_of_ne_nil (List.ne_nil_of_mem hmem)
      exact ⟨by simpa using hnext first rfl rfl, List.mem_append_left _ hmem⟩
    simp [turn, hopens]

lemma turn_eq (h : d.Paired inside (d.mark :: text)) :
    d.turn inside text = if inside then (['\x7d'], false) else (d.command ++ ['\x7b'], true) := by
  simpa using h.turn_append []

lemma walk_append (h : d.Paired inside left) (right : List Char) :
    d.walk inside (left ++ right) = d.walk inside left ++ d.walk false right := by
  induction left generalizing inside with
  | nil =>
    rw [h.eq_false_of_nil]
    rfl
  | cons c left ih =>
    rw [List.cons_append]
    by_cases hc : c = d.mark
    · subst hc
      have hrest := ih h.tail_mark
      rw [walk_mark, walk_mark, h.turn_append, h.turn_eq, List.append_assoc]
      cases inside <;> exact congrArg _ hrest
    · rw [walk_cons hc, walk_cons hc, ih (h.tail hc), List.cons_append]

lemma not_mem_walk (hown : d.mark ∉ d.wrap []) (h : d.Paired inside text) : d.mark ∉ d.walk inside text := by
  induction text generalizing inside with
  | nil => simp [walk]
  | cons c text ih =>
    by_cases hc : c = d.mark
    · subst hc
      have hrest := ih h.tail_mark
      rw [walk_mark, h.turn_eq]
      cases inside <;> simp_all [wrap]
    · rw [walk_cons hc, List.mem_cons, not_or]
      exact ⟨Ne.symm hc, ih (h.tail hc)⟩

lemma apply_append (h : d.Paired false left) (right : List Char) :
    d.apply (left ++ right) = d.apply left ++ d.apply right := by
  rw [apply_eq_walk, apply_eq_walk, apply_eq_walk, h.walk_append]

lemma apply (he : e.Foreign d.mark) (h : d.Paired false text) : d.Paired false (e.apply text) where
  apart := by
    rw [apply_eq_walk]
    refine (e.rewrites_walk false text).apart ?_ h.apart
    rintro old new ⟨-, inside, rest, rfl⟩
    exact ⟨e.turn_ne_nil inside rest, he.not_mem_turn inside rest⟩
  even := by
    rw [count_apply he]
    exact h.even

lemma ellipses (hd : d ∈ [italic, monospace]) (h : d.Paired false text) :
    d.Paired false (Markup.ellipses text) where
  apart := by
    refine (rewrites_ellipses text).apart ?_ h.apart
    rintro old new ⟨-, rfl⟩
    clear h
    revert d
    decide
  even := by
    rw [count_mark_ellipses hd]
    exact h.even

end Paired

end Delimiter

section Translation

variable (hleft : ∀ d ∈ [italic, monospace], d.Paired false left)

include hleft

lemma translateChars_append {right : List Char}
    (hcut : ¬ (left.getLast? = some '.' ∧ right.head? = some '.')) :
    translateChars (left ++ right) = translateChars left ++ translateChars right := by
  have hitalic := (hleft italic (by simp)).ellipses (by simp)
  have hmonospace := ((hleft monospace (by simp)).ellipses (by simp)).apply (e := italic) (by decide)
  rw [translateChars, ellipses_append hcut, hitalic.apply_append, hmonospace.apply_append]
  rfl

lemma not_mem_translateChars : ∀ d ∈ [italic, monospace], d.mark ∉ translateChars left := by
  have hdots := fun d hd => (hleft d hd).ellipses hd
  have hmonospace := (hdots monospace (by simp)).apply (e := italic) (by decide)
  have hslash : italic.mark ∉ italic.apply (ellipses left) := by
    rw [Delimiter.apply_eq_walk]
    exact (hdots italic (by simp)).not_mem_walk (by decide)
  intro d hd
  rw [translateChars, Delimiter.apply_eq_walk]
  rcases List.mem_pair.mp hd with rfl | rfl
  · rwa [Delimiter.mem_walk (by decide)]
  · exact hmonospace.not_mem_walk (by decide)

end Translation

lemma pass_eq_self (hdots : triples text = 0) (hpairs : ∀ d ∈ [italic, monospace], ¬ d.HoldsPair text) :
    ∀ pass ∈ passes, pass text = text := by
  simp only [passes, List.forall_mem_cons, List.not_mem_nil, false_imp_iff, implies_true, and_true]
  exact ⟨ellipses_of_triples hdots, Delimiter.apply_of_not_holdsPair (hpairs italic (by simp)),
    Delimiter.apply_of_not_holdsPair (hpairs monospace (by simp))⟩

end Markup

open Markup

/-- Let the slashes of a text, and its bars, be even in number and no two of them stand side by side. What
comes behind it is then translated on its own, unless dots meet there, and its translation holds nothing that
a further pass would find. -/
theorem translate_append_of_paired {a : String} (hslashes : ¬ "//".toList <:+: a.toList)
    (hbars : ¬ "||".toList <:+: a.toList) (hslash_even : Even (a.toList.count '/'))
    (hbar_even : Even (a.toList.count '|')) :
    (∀ b : String, ¬ (a.toList.getLast? = some '.' ∧ b.toList.head? = some '.') →
      translate (a ++ b) = translate a ++ translate b) ∧
    '/' ∉ (translate a).toList ∧ '|' ∉ (translate a).toList ∧ ¬ "...".toList <:+: (translate a).toList ∧
    (∀ pass ∈ passes, pass (translate a).toList = (translate a).toList) ∧
    translate (translate a) = translate a := by
  have hpaired : ∀ d ∈ [italic, monospace], d.Paired false a.toList := by
    intro d hd
    rcases List.mem_pair.mp hd with rfl | rfl
    · exact ⟨apart_of_not_doubled hslashes, hslash_even⟩
    · exact ⟨apart_of_not_doubled hbars, hbar_even⟩
  have hdots := triples_translateChars a.toList
  have hmarks := not_mem_translateChars hpaired
  have hpairs := fun d hd => Delimiter.not_holdsPair_of_not_mem (hmarks d hd)
  simp only [translate, String.toList_ofList, String.toList_append]
  refine ⟨fun b hcut => ?_, hmarks italic (by simp), hmarks monospace (by simp),
    triples_eq_zero_iff.mp hdots, pass_eq_self hdots hpairs, ?_⟩
  · rw [translateChars_append hpaired hcut, String.ofList_append]
  · rw [translateChars_of_untouched hdots (hpairs italic (by simp)) (hpairs monospace (by simp))]

theorem translate_append_of_overlap :
    translate ("/a|b\n/c|....d" ++ ".../|e/") =
        "\\textit\x7ba\\texttt\x7bb\n\x7dc\x7d\\ldots\x7b\x7d.d" ++ "\\ldots\x7b\x7d\\textit\x7b|e\x7d" ∧
      translate (translate "/a|b\n/c|....d") = translate "/a|b\n/c|....d" := by
  obtain ⟨happend, -, -, -, -, hagain⟩ := translate_append_of_paired (a := "/a|b\n/c|....d") (by decide)
    (by decide) (by decide) (by decide)
  refine ⟨?_, hagain⟩
  rw [happend ".../|e/" (by decide)]
  decide

end SlideDeck
