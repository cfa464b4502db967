import Mathlib.Data.Nat.Digits.Lemmas
import SlideDeck.Node.Slides

/-! The characters of overlay specifications and of values that are no texts. -/

namespace SlideDeck

variable {c : Char}

lemma not_mem_toDigits (hdigit : c.isDigit = false) (n : Nat) : c ∉ Nat.toDigits 10 n := by
  intro hc
  simp [Nat.isDigit_of_mem_toDigits (by decide) (by decide) hc] at hdigit

lemma not_mem_toString (hdigit : c.isDigit = false) (hsign : c ≠ '-') (n : Int) :
    c ∉ (toString n).toList := by
  rw [Int.toString_eq_repr]
  cases n with
  | ofNat n => simpa [Int.repr] using not_mem_toDigits hdigit n
  | negSucc n => simpa [Int.repr, hsign] using not_mem_toDigits hdigit (n + 1)

namespace Atom

def texts : Atom → List String
  | text value => [value]
  | null | bool _ | int _ => []

lemma shown_cases (a : Atom) (hdigit : c.isDigit = false) (hsigns : c ∉ "-NoneTrueFalse".toList) :
    (∃ value, a = text value) ∨ c ∉ a.shown.toList := by
  cases a with
  | text value => exact .inl ⟨value, rfl⟩
  | null => exact .inr fun hc => hsigns (by simp_all [shown, write])
  | int n => exact .inr (not_mem_toString hdigit (fun hc => hsigns (by simp [hc])) n)
  | bool value => exact .inr fun hc => hsigns (by cases value <;> simp_all [shown, write])

end Atom

namespace Overlay

lemma not_mem_range (hdigit : c.isDigit = false) (hsigns : c ∉ "<only@->".toList) (n : Int) :
    c ∉ (range n).toList := by
  have hslide := not_mem_toDigits hdigit n.natAbs
  have hnumber := not_mem_toString hdigit (fun hc => hsigns (by simp [hc])) n
  rw [range]
  split_ifs <;> simp_all

lemma not_mem_command (hdigit : c.isDigit = false) (hsigns : c ∉ "\\onlyside<->".toList) (n : Int) :
    c ∉ (command n).toList := by
  have hslide := not_mem_toDigits hdigit n.natAbs
  have hnumber := not_mem_toString hdigit (fun hc => hsigns (by simp [hc])) n
  rw [command]
  split_ifs <;> simp_all

end Overlay

namespace Slides

lemma not_mem_range (hdigit : c.isDigit = false) (hsigns : c ∉ "<only@->TrueFalse".toList) (x : Slides) :
    c ∉ x.range.toList := by
  cases x with
  | int n => exact Overlay.not_mem_range hdigit (fun hc => hsigns (by simp at hc ⊢; tauto)) n
  | bool value => cases value <;> simp_all [range, Atom.shown, Atom.write]
  | text value => simp [range]

lemma not_mem_command (hdigit : c.isDigit = false) (hsigns : c ∉ "\\onlyside<->TrueFalse".toList) (x : Slides) :
    c ∉ x.command.toList := by
  cases x with
  | int n => exact Overlay.not_mem_command hdigit (fun hc => hsigns (by simp at hc ⊢; tauto)) n
  | bool value => cases value <;> simp_all [command, Atom.shown, Atom.write]
  | text value => simp [command]

end Slides

end SlideDeck
