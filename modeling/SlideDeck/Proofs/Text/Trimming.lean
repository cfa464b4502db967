import Mathlib.Data.List.DropRight
import SlideDeck.Text.Blank

/-! Dropping the blanks at both ends of a text. -/

namespace SlideDeck.Text

/-- The first text is the second one between blanks, and the second one neither begins nor ends with a blank. -/
structure Trims (text bare : List Char) : Prop where
  around : ∃ front back, text = front ++ bare ++ back ∧ ∀ c ∈ front ++ back, isBlank c = true
  head : ∀ c ∈ bare.head?, isBlank c = false
  last : ∀ c ∈ bare.getLast?, isBlank c = false

variable {text bare : List Char}

lemma trimChars_eq (text : List Char) : trimChars text = (text.dropWhile isBlank).rdropWhile isBlank := rfl

lemma trims_trimChars (text : List Char) : Trims text (trimChars text) where
  around := by
    let rest := text.dropWhile isBlank
    have hfront : text.takeWhile isBlank ++ rest = text := List.takeWhile_append_dropWhile
    have hback : rest.rdropWhile isBlank ++ rest.rtakeWhile isBlank = rest :=
      List.rdropWhile_append_rtakeWhile
    refine ⟨text.takeWhile isBlank, rest.rtakeWhile isBlank, ?_, fun c hc => ?_⟩
    · rw [trimChars_eq, List.append_assoc, hback, hfront]
    · rcases List.mem_append.mp hc with hc | hc
      · exact List.mem_takeWhile_imp hc
      · exact List.mem_rtakeWhile_imp hc
  head := by
    intro c hc
    rw [trimChars_eq] at hc
    -- what is left at the end is a prefix of what is left at the beginning, so that both begin alike
    obtain ⟨back, hback⟩ := List.rdropWhile_prefix isBlank (text.dropWhile isBlank)
    have hhead : c ∈ (text.dropWhile isBlank).head? := by
      rw [← hback, List.head?_append]
      simp [Option.mem_def.mp hc]
    have hstop := List.head?_dropWhile_not isBlank text
    rw [Option.mem_def.mp hhead] at hstop
    simpa using hstop
  last := by
    intro c hc
    rw [trimChars_eq] at hc
    obtain ⟨hne, rfl⟩ := List.mem_getLast?_eq_getLast hc
    simpa using List.rdropWhile_last_not isBlank _ hne

lemma dropWhile_append_of_blank {front rest : List Char} (hfront : ∀ c ∈ front, isBlank c = true)
    (hrest : ∀ c ∈ rest.head?, isBlank c = false) : (front ++ rest).dropWhile isBlank = rest := by
  rw [List.dropWhile_append_of_pos hfront]
  cases rest with
  | nil => rfl
  | cons c rest => exact List.dropWhile_cons_of_neg (by simp [hrest c rfl])

lemma Trims.eq_trimChars (h : Trims text bare) : bare = trimChars text := by
  obtain ⟨⟨front, back, rfl, hblank⟩, hhead, hlast⟩ := h
  rw [List.forall_mem_append] at hblank
  have hback : ∀ c ∈ back.reverse, isBlank c = true := fun c hc => hblank.2 c (List.mem_reverse.mp hc)
  rw [trimChars]
  cases bare with
  | nil =>
    rw [List.append_nil, List.dropWhile_append_of_pos hblank.1, List.dropWhile_eq_nil_iff.mpr hblank.2]
    rfl
  | cons c bare =>
    have hrest : ∀ d ∈ (c :: bare ++ back).head?, isBlank d = false := hhead
    rw [List.append_assoc, dropWhile_append_of_blank hblank.1 hrest, List.reverse_append,
      dropWhile_append_of_blank hback (by rwa [List.head?_reverse]), List.reverse_reverse]

lemma trimChars_trimChars (text : List Char) : trimChars (trimChars text) = trimChars text :=
  (Trims.eq_trimChars ⟨⟨[], [], by simp, List.forall_mem_nil _⟩, (trims_trimChars text).head,
    (trims_trimChars text).last⟩).symm

lemma toList_trim (text : String) : (trim text).toList = trimChars text.toList := String.toList_ofList

lemma trim_trim (text : String) : trim (trim text) = trim text := by
  rw [trim, toList_trim, trimChars_trimChars, trim]

end SlideDeck.Text
