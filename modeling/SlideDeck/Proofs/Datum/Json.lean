import Mathlib.Data.List.Basic
import Mathlib.Data.List.Nodup
import SlideDeck.Datum.Basic

/-! Data of the kinds that JSON has. A mapping has names for keys, and each of them once. -/

namespace SlideDeck

namespace CodeText

lemma ofString_injective : Function.Injective ofString := by
  intro a b h
  have hpoints : a.toList.map CodePoint.char = b.toList.map CodePoint.char := congrArg points h
  exact String.toList_injective (List.map_injective_iff.mpr (fun _ _ => CodePoint.char.inj) hpoints)

@[simp] lemma ofString_inj {a b : String} : ofString a = ofString b ↔ a = b := ofString_injective.eq_iff

lemma join_map_char (text : List Char) : join (text.map .char) = text := by
  induction text with
  | nil => rfl
  | cons c rest ih => simp [join, CodePoint.toChar, ih]

@[simp] lemma shown_ofString (text : String) : (ofString text).shown = text := by
  simp [shown, ofString, ofChars, join_map_char]

@[simp] lemma holdsHalf_ofString (text : String) : (ofString text).holdsHalf = false := by
  simp [holdsHalf, ofString, ofChars, CodePoint.isHalf]

end CodeText

namespace Datum

def named (members : List (String × Datum)) : List (Scalar × Datum) :=
  members.map fun (name, datum) => (.text name, datum)

inductive IsJson : Datum → Prop where
  | null : IsJson (.scalar .null)
  | bool (value : Bool) : IsJson (.scalar (.bool value))
  | int (value : Int) : IsJson (.scalar (.int value))
  | float (value : Binary64) : IsJson (.scalar (.float value))
  | text (value : CodeText) : IsJson (.text value)
  | sequence {items : List Datum} : (∀ item ∈ items, IsJson item) → IsJson (.sequence items)
  | mapping {members : List (String × Datum)} : (members.map Prod.fst).Nodup →
      (∀ member ∈ members, IsJson member.2) → IsJson (.mapping (named members))

variable {members : List (String × Datum)} {name : String} {datum : Datum}

@[simp] lemma mem_named : (.text name, datum) ∈ named members ↔ (name, datum) ∈ members := by
  simp [named]

lemma sameKey_text (a b : CodeText) : (Scalar.text a).sameKey (.text b) = (a == b) := by
  by_cases h : a = b <;> simp [Scalar.sameKey, Scalar.toInt?, h]

lemma lookup_named (name : String) (members : List (String × Datum)) :
    lookup name (named members) = (members.find? fun member => member.1 == name).map Prod.snd := by
  induction members with
  | nil => rfl
  | cons member rest ih =>
    have hsame : (Scalar.text (.ofString member.1)).sameKey (.text name) = (member.1 == name) := by
      rw [sameKey_text, Bool.eq_iff_iff]
      simp
    rw [lookup, named] at ih ⊢
    rw [List.map_cons, List.find?_cons, List.find?_cons, hsame]
    cases member.1 == name with
    | true => rfl
    | false => exact ih

lemma lookup_eq_some_iff (h : (members.map Prod.fst).Nodup) :
    lookup name (named members) = some datum ↔ (name, datum) ∈ members := by
  rw [lookup_named]
  induction members with
  | nil => simp
  | cons member rest ih =>
    obtain ⟨key, held⟩ := member
    obtain ⟨hfresh, hrest⟩ := List.nodup_cons.mp h
    rw [List.find?_cons, List.mem_cons, ← ih hrest]
    rcases eq_or_ne key name with rfl | hne
    · have hnot : ∀ found, (key, found) ∉ rest := fun _ hmem => hfresh (List.mem_map.mpr ⟨_, hmem, rfl⟩)
      rw [ih hrest, beq_self_eq_true]
      simp [hnot, eq_comm]
    · rw [beq_false_of_ne hne]
      simp [hne.symm]

lemma lookup_eq_none_iff (h : (members.map Prod.fst).Nodup) :
    lookup name (named members) = none ↔ ∀ datum, (name, datum) ∉ members := by
  simp [Option.eq_none_iff_forall_ne_some, lookup_eq_some_iff h]

end Datum

end SlideDeck
