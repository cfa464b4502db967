import Mathlib.Data.List.Infix
import SlideDeck.Markup

/-! The rules of the light markup as rewritings: some parts of a text are replaced and the rest is kept. -/

namespace SlideDeck.Markup

inductive Rewrites (rule : List Char → List Char → Prop) : List Char → List Char → Prop
  | nil : Rewrites rule [] []
  | keep (c : Char) {text out : List Char} (h : Rewrites rule text out) :
      Rewrites rule (c :: text) (c :: out)
  | replace {old new text out : List Char} (hrule : rule old new) (h : Rewrites rule text out) :
      Rewrites rule (old ++ text) (new ++ out)

def EllipsisRule (old new : List Char) : Prop := old = "...".toList ∧ new = ellipsis

def Delimiter.Rule (d : Delimiter) (old new : List Char) : Prop :=
  ∃ body, body ≠ [] ∧ d.mark ∉ body ∧ old = d.mark :: body ++ [d.mark] ∧ new = d.wrap body

variable {rule : List Char → List Char → Prop} {text out : List Char}

lemma Rewrites.refl (text : List Char) : Rewrites rule text text := by
  induction text with
  | nil => exact .nil
  | cons c rest ih => exact .keep c ih

lemma rewrites_ellipses (text : List Char) : Rewrites EllipsisRule text (ellipses text) := by
  induction text using ellipses.induct with
  | case1 rest ih =>
    have hrule : EllipsisRule "...".toList ellipsis := ⟨rfl, rfl⟩
    rw [ellipses]
    exact .replace hrule ih
  | case2 c rest hdots ih =>
    rw [ellipses]
    · exact .keep c ih
    · exact hdots
  | case3 => exact .nil

namespace Delimiter

variable (d : Delimiter)

/-- What is read from left to right, and what is written for it. A character is kept, a mark too where another
one follows, and a mark that is never closed stays with all that is behind it. -/
inductive Scans : List Char → List Char → Prop
  | nil : Scans [] []
  | unclosed {body : List Char} (hbody : d.mark ∉ body) : Scans (d.mark :: body) (d.mark :: body)
  | keep {c : Char} {text out : List Char} (hnext : c = d.mark → text.head? = some d.mark) (h : Scans text out) :
      Scans (c :: text) (c :: out)
  | pair {body text out : List Char} (hne : body ≠ []) (hbody : d.mark ∉ body) (h : Scans text out) :
      Scans (d.mark :: body ++ [d.mark] ++ text) (d.wrap body ++ out)

/-- What a scan has still to read together with what it holds back. -/
def pending : Option (List Char) → List Char → List Char
  | none, text => text
  | some body, text => d.mark :: body.reverse ++ text

lemma scans_scan (held? : Option (List Char)) (text : List Char) (hheld : ∀ body ∈ held?, d.mark ∉ body) :
    d.Scans (d.pending held? text) (d.scan held? text) := by
  induction text generalizing held? with
  | nil =>
    cases held? with
    | none => exact .nil
    | some body =>
      have hbody : d.mark ∉ body.reverse := by simpa using hheld body rfl
      simpa [pending, scan] using Scans.unclosed hbody
  | cons c rest ih =>
    cases held? with
    | none =>
      rw [scan, pending]
      split_ifs with hc
      · subst hc
        exact ih (some []) (by simp)
      · exact .keep (absurd · hc) (ih none (by simp))
    | some body =>
      have hbody : d.mark ∉ body := hheld body rfl
      rw [scan, pending]
      split_ifs with hc hempty
      · -- the first of two marks in a row stays, the second one may open a pair
        subst hc hempty
        exact .keep (fun _ => rfl) (ih (some []) (by simp))
      · subst hc
        simpa [pending] using Scans.pair (by simpa using hempty) (by simpa using hbody) (ih none (by simp))
      · have hmore : d.mark ∉ c :: body := by
          rw [List.mem_cons, not_or]
          exact ⟨fun h => hc h.symm, hbody⟩
        simpa [pending] using ih (some (c :: body)) (by simpa using hmore)

lemma scans_apply (text : List Char) : d.Scans text (d.apply text) := d.scans_scan none text (by simp)

variable {d} in
lemma Scans.rewrites (h : d.Scans text out) : Rewrites d.Rule text out := by
  induction h with
  | nil => exact .nil
  | unclosed => exact .refl _
  | keep _ _ ih => exact .keep _ ih
  | @pair body _ _ hne hbody _ ih => exact .replace ⟨body, hne, hbody, rfl, rfl⟩ ih

lemma rewrites_apply (text : List Char) : Rewrites d.Rule text (d.apply text) := (d.scans_apply text).rewrites

lemma scan_concat {c : Char} (hc : c ≠ d.mark) (held? : Option (List Char)) (text : List Char) :
    d.scan held? (text ++ [c]) = d.scan held? text ++ [c] := by
  induction text generalizing held? with
  | nil => cases held? <;> simp [scan, hc]
  | cons first rest ih =>
    cases held? with
    | none =>
      rw [List.cons_append, scan, scan, ih, ih]
      split_ifs <;> rfl
    | some body =>
      rw [List.cons_append, scan, scan, ih, ih, ih]
      split_ifs <;> simp

end Delimiter

lemma ellipses_concat {c : Char} (hc : c ≠ '.') (text : List Char) :
    ellipses (text ++ [c]) = ellipses text ++ [c] := by
  induction text using ellipses.induct with
  | case1 rest ih => simp [ellipses, ih]
  | case2 first rest hdots ih =>
    rw [List.cons_append, ellipses, ellipses, ih, List.cons_append]
    · exact hdots
    · -- with `c` at the end there are no three dots that were not there before
      rintro more rfl hmore
      rcases rest with _ | ⟨second, _ | ⟨third, rest⟩⟩ <;> simp_all
  | case3 => simp [ellipses]

lemma translateChars_induction {P : List Char → Prop} (hellipsis : ∀ text out,
    Rewrites EllipsisRule text out → P text → P out) (hdelimiter : ∀ d ∈ [italic, monospace],
      ∀ text out, Rewrites d.Rule text out → P text → P out) (text : List Char) (h : P text) :
    P (translateChars text) := by
  have hdots := hellipsis _ _ (rewrites_ellipses text) h
  have hitalic := hdelimiter italic (by simp) _ _ (italic.rewrites_apply _) hdots
  exact hdelimiter monospace (by simp) _ _ (monospace.rewrites_apply _) hitalic

lemma translateChars_concat {c : Char} (hdot : c ≠ '.') (hitalic : c ≠ italic.mark)
    (hmonospace : c ≠ monospace.mark) (text : List Char) :
    translateChars (text ++ [c]) = translateChars text ++ [c] := by
  rw [translateChars, ellipses_concat hdot, Delimiter.apply, Delimiter.apply,
    italic.scan_concat hitalic, monospace.scan_concat hmonospace]
  rfl

end SlideDeck.Markup
