import SlideDeck.Node.Draft
import SlideDeck.Proofs.Markup.Pairing
import SlideDeck.Proofs.Overlay

/-! Slides can be read back: an overlay specification ends at its first closing bracket, and what stands before
the bracket belongs to one number only. -/

namespace SlideDeck

namespace Overlay

/-- A specification up to its closing bracket. A slide that stands alone comes after one word, and one from
which on something is shown after another. -/
def head (alone onward : String) (n : Int) : String :=
  if n < 0 then alone ++ toString n.natAbs else onward ++ toString n ++ "-"

lemma range_eq (n : Int) : range n = head "<only@" "<" n ++ ">" := by
  rw [range, head]
  split_ifs
  · rfl
  · rw [show "->" = "-" ++ ">" from rfl, ← String.append_assoc]

lemma command_eq (n : Int) : command n = head "\\only<" "\\onslide<" n ++ ">" := by
  rw [command, head]
  split_ifs
  · rfl
  · rw [show "->" = "-" ++ ">" from rfl, ← String.append_assoc]

variable {alone onward a b : String} {m n : Int}

lemma not_mem_head {c : Char} (hdigit : c.isDigit = false) (hsign : c ≠ '-') (halone : c ∉ alone.toList)
    (honward : c ∉ onward.toList) (n : Int) : c ∉ (head alone onward n).toList := by
  have hslide : c ∉ (toString n.natAbs).toList := not_mem_toString hdigit hsign n.natAbs
  have hnumber := not_mem_toString hdigit hsign n
  rw [head]
  split_ifs <;> simp_all

lemma toString_injective : Function.Injective (toString : ℕ → String) :=
  Function.LeftInverse.injective (g := fun text => Nat.ofDigitChars 10 text.toList 0) fun n => by
    simp [Nat.ofDigitChars_toDigits]

lemma head_injective (halone : '-' ∉ alone.toList) : Function.Injective (head alone onward) := by
  have hsign (n : ℕ) : '-' ∉ (alone ++ toString n).toList := by
    simp [halone, not_mem_toDigits (show '-'.isDigit = false from rfl) n]
  intro m n h
  rw [head, head] at h
  -- a sign behind the number is there in the one form only
  split_ifs at h with hm hn hn
  · have habs : m.natAbs = n.natAbs := toString_injective ((String.append_right_inj alone).mp h)
    omega
  · exact absurd (by simp) (h ▸ hsign m.natAbs)
  · exact absurd (by simp) (h ▸ hsign n.natAbs)
  · have hnumber := (String.append_right_inj onward).mp ((String.append_left_inj "-").mp h)
    obtain ⟨a, rfl⟩ := Int.eq_ofNat_of_zero_le (not_lt.mp hm)
    obtain ⟨b, rfl⟩ := Int.eq_ofNat_of_zero_le (not_lt.mp hn)
    exact congrArg Nat.cast (toString_injective hnumber)

lemma head_append_inj (halone : '-' ∉ alone.toList) (hclosing : '>' ∉ alone.toList)
    (hclosing' : '>' ∉ onward.toList) :
    head alone onward m ++ ">" ++ a = head alone onward n ++ ">" ++ b ↔ m = n ∧ a = b := by
  refine ⟨fun h => ?_, fun ⟨hnumber, hrest⟩ => by rw [hnumber, hrest]⟩
  have hopen := not_mem_head rfl (by decide) hclosing hclosing'
  have hchars := congrArg String.toList h
  simp only [String.toList_append, List.append_assoc] at hchars
  obtain ⟨hhead, hrest⟩ := Markup.split_unique (hopen m) (hopen n) hchars
  exact ⟨head_injective halone (String.toList_injective hhead), String.toList_injective hrest⟩

lemma range_append_inj : range m ++ a = range n ++ b ↔ m = n ∧ a = b := by
  rw [range_eq, range_eq]
  exact head_append_inj (by decide) (by decide) (by decide)

lemma command_append_inj : command m ++ a = command n ++ b ↔ m = n ∧ a = b := by
  rw [command_eq, command_eq]
  exact head_append_inj (by decide) (by decide) (by decide)

lemma range_injective : Function.Injective range := fun _ _ h =>
  (range_append_inj.mp (congrArg (· ++ "") h)).1

lemma command_injective : Function.Injective command := fun _ _ h =>
  (command_append_inj.mp (congrArg (· ++ "") h)).1

end Overlay

namespace Draft

variable {body body' : String} {slide? slide?' : Option Int} {kind kind' : Kind} {m n : Int}

lemma textIn_itemize_inj :
    textIn .itemize body slide? = textIn .itemize body' slide?' ↔ body = body' ∧ slide? = slide?' := by
  refine ⟨fun h => ?_, fun ⟨hbody, hslide⟩ => by rw [hbody, hslide]⟩
  -- the first character behind the command of an item
  have hapart (n : Int) (a b : String) : "\\item " ++ a ≠ "\\item" ++ Overlay.range n ++ b := by
    intro heq
    rw [Overlay.range] at heq
    have hchar := congrArg (fun text => text.toList[5]?) heq
    split_ifs at hchar <;> simp at hchar
  cases slide? with
  | none =>
    cases slide?' with
    | none => simpa [textIn] using h
    | some n => exact absurd (by simpa [textIn, String.append_assoc] using h) (hapart n _ _)
  | some m =>
    cases slide?' with
    | none => exact absurd (by simpa [textIn, String.append_assoc] using h.symm) (hapart m _ _)
    | some n =>
      have hrange : Overlay.range m ++ (" " ++ body ++ "\n") = Overlay.range n ++ (" " ++ body' ++ "\n") := by
        simpa [textIn, String.append_assoc] using h
      obtain ⟨rfl, hrest⟩ := Overlay.range_append_inj.mp hrange
      exact ⟨by simpa using hrest, rfl⟩

lemma textIn_overlay (hkind : kind ≠ .itemize) (body : String) (n : Int) :
    textIn kind body (some n) = .text (Overlay.command n ++ ("\x7b" ++ body ++ "\x7d\n")) := by
  cases kind <;> simp_all [textIn, String.append_assoc]

lemma textIn_overlay_inj (hkind : kind ≠ .itemize) (hkind' : kind' ≠ .itemize) :
    textIn kind body (some m) = textIn kind' body' (some n) ↔ body = body' ∧ m = n := by
  rw [textIn_overlay hkind, textIn_overlay hkind', text.injEq, Overlay.command_append_inj,
    String.append_left_inj, String.append_right_inj, and_comm]

end Draft

end SlideDeck
