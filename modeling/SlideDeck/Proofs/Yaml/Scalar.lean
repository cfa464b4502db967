import SlideDeck.Proofs.Yaml.Faults
import SlideDeck.Yaml.Scalar

/-! The faults of nodes without parts, by their types. -/

namespace SlideDeck.Yaml

open Std.Do

set_option mvcgen.warning false

def Tag.faults : Tag → List Fault
  | .bool => [.truth]
  | .int => [.number, .emptyNumber]
  | .float => [.number, .emptyNumber, .tooLarge]
  | .timestamp => [.moment, .number]
  | _ => []

abbrev onlyFaults {α : Type} (faults : List Fault) : PostCond α (.except Fault .pure) :=
  post⟨fun _ => ⌜True⌝, fun fault => ⌜fault ∈ faults⌝⟩

namespace Number

@[spec]
lemma readInt_spec (base : Nat) (text : List Char) :
    ⦃⌜True⌝⦄ readInt base text ⦃onlyFaults Tag.int.faults⦄ := by
  mvcgen [readInt]

@[spec]
lemma int_spec (text : List Char) : ⦃⌜True⌝⦄ int text ⦃onlyFaults Tag.int.faults⦄ := by
  have hparts (text : List Char) := mapM_spec (splitColons text) (readInt_spec 10)
  mvcgen [int, hparts]

@[spec]
lemma readFloat_spec (text : List Char) : ⦃⌜True⌝⦄ readFloat text ⦃onlyFaults Tag.float.faults⦄ := by
  mvcgen [readFloat]

@[spec]
lemma addSixties_spec (power : Nat) (sum : Binary64) (parts : List Binary64) :
    ⦃⌜True⌝⦄ addSixties power sum parts ⦃onlyFaults Tag.float.faults⦄ := by
  induction parts generalizing power sum with
  | nil => mvcgen [addSixties]
  | cons part rest ih => mvcgen [addSixties, ih]

@[spec]
lemma float_spec (text : List Char) : ⦃⌜True⌝⦄ float text ⦃onlyFaults Tag.float.faults⦄ := by
  have hparts (text : List Char) := mapM_spec (splitColons text) readFloat_spec
  mvcgen [float, hparts]

end Number

@[spec]
lemma readBool_spec (text : List Char) : ⦃⌜True⌝⦄ readBool text ⦃onlyFaults Tag.bool.faults⦄ := by
  mvcgen [readBool]

@[spec]
lemma readBytes_spec (text : List Char) : ⦃⌜True⌝⦄ readBytes text ⦃onlyFaults [.malformed]⦄ := by
  mvcgen [readBytes]

@[spec]
lemma readMoment_spec (text : List Char) :
    ⦃⌜True⌝⦄ readMoment text ⦃onlyFaults Tag.timestamp.faults⦄ := by
  mvcgen [readMoment]

@[spec]
lemma readFloat_spec (place : Nat) (text : List Char) :
    ⦃⌜True⌝⦄ readFloat place text ⦃onlyFaults Tag.float.faults⦄ := by
  mvcgen [readFloat]

@[spec]
lemma scalarOf_spec (tag : Tag) (place : Nat) (text : CodeText) :
    ⦃⌜True⌝⦄ scalarOf tag place text ⦃onlyFaults (.malformed :: tag.faults)⦄ := by
  mvcgen [scalarOf]
  all_goals exact List.mem_cons_of_mem _

namespace Graph

/-- The types of nodes are as before or have become those of texts, mappings are where they were, and so are texts. -/
structure Softens (g h : Graph) : Prop where
  tag (place : Nat) : (h.node place).tag = (g.node place).tag ∨ (h.node place).tag = .str
  isMapping (place : Nat) : h.isMapping place = g.isMapping place
  text {place : Nat} {text : CodeText} : (h.node place).content = .scalar text → (g.node place).content = .scalar text

lemma Softens.refl (g : Graph) : g.Softens g := ⟨fun _ => .inl rfl, fun _ => rfl, id⟩

lemma Softens.trans {g h k : Graph} (hgh : g.Softens h) (hhk : h.Softens k) : g.Softens k where
  tag place := by
    obtain htag | htag := hhk.tag place
    · exact htag ▸ hgh.tag place
    · exact .inr htag
  isMapping place := (hhk.isMapping place).trans (hgh.isMapping place)
  text h := hgh.text (hhk.text h)

/-- The faults of a node apart from being malformed: its text is none of its type, it is a mapping that stands for a
point of time, or a mapping whose text never ends. Before, keys may have been merged. -/
inductive Refuses (g : Graph) (place : Nat) : Fault → Prop where
  | text {h : Graph} {fuel : Nat} {text : CodeText} {fault : Fault} : g.Softens h → h.textOf fuel place = .ok text →
      scalarOf (g.node place).tag place text = .error fault → fault ∈ (g.node place).tag.faults →
      Refuses g place fault
  | momentOfMapping : (g.node place).tag = .timestamp → g.isMapping place → Refuses g place .momentOfMapping
  | unending {h : Graph} : g.Softens h → (∀ fuel, h.textOf fuel place = .error .unending) → Refuses g place .unending

variable {g : Graph} {place : Nat} {fault : Fault}

lemma Refuses.ne_malformed (h : g.Refuses place fault) : fault ≠ .malformed := by
  cases h with
  | text _ _ _ hfault =>
    rintro rfl
    generalize (g.node place).tag = tag at hfault
    cases tag <;> simp [Tag.faults] at hfault
  | momentOfMapping | unending => nofun

lemma textOf_fault {fuel : Nat} (h : g.textOf fuel place = .error fault) : fault = .malformed ∨ fault = .unending := by
  induction fuel generalizing place with
  | zero =>
    cases h
    exact .inr rfl
  | succ fuel ih =>
    rw [textOf] at h
    split at h
    · cases h
    · cases h
      exact .inl rfl
    · split at h
      · exact ih h
      · cases h
        exact .inl rfl

def heir? (g : Graph) (place : Nat) : Option Nat :=
  match (g.node place).content with
  | .mapping pairs => (pairs.find? fun pair => (g.node pair.1).tag = .value).map Prod.snd
  | _ => none

lemma textOf_succ_eq_unending_iff {fuel : Nat} : g.textOf (fuel + 1) place = .error .unending ↔
    ∃ next, g.heir? place = some next ∧ g.textOf fuel next = .error .unending := by
  rw [textOf, heir?]
  cases (g.node place).content with
  | scalar | sequence => simp
  | mapping pairs => cases hfind : pairs.find? fun pair => (g.node pair.1).tag = .value <;> simp [hfind]

lemma lt_size_of_heir? {next : Nat} (h : g.heir? place = some next) : place < g.size := by
  by_contra hlt
  rw [heir?, node, Array.getElem?_eq_none (Nat.le_of_not_lt hlt)] at h
  cases h

lemma textOf_eq_unending (h : g.textOf (g.size + 1) place = .error .unending) (fuel : Nat) :
    g.textOf fuel place = .error .unending := by
  let next (p : Nat) : Nat := (g.heir? p).getD 0
  have hway (n : Nat) (hn : n ≤ g.size) : g.textOf (g.size + 1 - n) (next^[n] place) = .error .unending := by
    induction n with
    | zero => exact h
    | succ n ih =>
      have hbefore := ih (Nat.le_of_succ_le hn)
      rw [show g.size + 1 - n = (g.size + 1 - (n + 1)) + 1 by omega, textOf_succ_eq_unending_iff] at hbefore
      obtain ⟨heir, hheir, hunending⟩ := hbefore
      rw [Function.iterate_succ_apply', show next (next^[n] place) = heir by simp [next, hheir]]
      exact hunending
  have hheir (n : Nat) (hn : n ≤ g.size) : ∃ heir, g.heir? (next^[n] place) = some heir := by
    have hunending := hway n hn
    rw [show g.size + 1 - n = (g.size - n) + 1 by omega, textOf_succ_eq_unending_iff] at hunending
    exact hunending.imp fun _ => And.left
  obtain ⟨i, j, hij, hmeet⟩ : ∃ i j, i < j ∧ next^[i] place = next^[j] place ∧ j ≤ g.size := by
    let visit (n : Fin (g.size + 1)) : Fin g.size :=
      ⟨next^[n] place, lt_size_of_heir? (hheir n (Nat.le_of_lt_succ n.isLt)).choose_spec⟩
    obtain ⟨i, j, hne, hsame⟩ := Fintype.exists_ne_map_eq_of_card_lt visit (by simp)
    have hsame : next^[i] place = next^[j] place := congrArg Fin.val hsame
    obtain hlt | hlt := Nat.lt_or_gt_of_ne (Fin.val_ne_of_ne hne)
    · exact ⟨i, j, hlt, hsame, Nat.le_of_lt_succ j.isLt⟩
    · exact ⟨j, i, hlt, hsame.symm, Nat.le_of_lt_succ i.isLt⟩
  -- Every place on the way is one of the first.
  have hfirst (n : Nat) : ∃ m ≤ g.size, next^[n] place = next^[m] place := by
    induction n using Nat.strong_induction_on with
    | _ n ih =>
      by_cases hn : n ≤ g.size
      · exact ⟨n, hn, rfl⟩
      · obtain ⟨m, hm, hsame⟩ := ih (n - j + i) (by omega)
        refine ⟨m, hm, .trans ?_ hsame⟩
        rw [show n = (n - j) + j by omega, Function.iterate_add_apply, ← hmeet.1, ← Function.iterate_add_apply,
          Nat.add_sub_cancel]
  have hall (n : Nat) : g.textOf fuel (next^[n] place) = .error .unending := by
    induction fuel generalizing n with
    | zero => rfl
    | succ fuel ih =>
      obtain ⟨m, hm, hsame⟩ := hfirst n
      obtain ⟨heir, hheir⟩ := hheir m hm
      rw [← hsame] at hheir
      have hnext := ih (n + 1)
      rw [Function.iterate_succ_apply', show next (next^[n] place) = heir by simp [next, hheir]] at hnext
      exact textOf_succ_eq_unending_iff.mpr ⟨heir, hheir, hnext⟩
  exact hall 0

lemma isMapping_of_content {pairs : List (Nat × Nat)} (h : (g.node place).content = .mapping pairs) :
    g.isMapping place := by rw [isMapping, h]

lemma refuses_of_scalar (h : g.scalar place = .error fault) : fault = .malformed ∨ g.Refuses place fault := by
  have hread (h : (g.textOf (g.size + 1) place >>= fun text =>
      if (g.node place).tag = .timestamp ∧ g.isMapping place then .error .momentOfMapping
      else scalarOf (g.node place).tag place text) = .error fault) : fault = .malformed ∨ g.Refuses place fault := by
    cases htext : g.textOf (g.size + 1) place with
    | error cause =>
      rw [htext] at h
      cases h
      obtain rfl | rfl := textOf_fault htext
      · exact .inl rfl
      · exact .inr (.unending (.refl g) (textOf_eq_unending htext))
    | ok text =>
      rw [htext] at h
      simp only [bind, Except.bind] at h
      split_ifs at h with hmoment
      · cases h
        exact .inr (.momentOfMapping hmoment.1 hmoment.2)
      · have hfault := error_of_spec (scalarOf_spec _ _ _) trivial h
        exact (List.mem_cons.mp hfault).imp id (.text (.refl g) htext h)
  rw [scalar] at h
  split at h
  · cases h
    exact .inl rfl
  · cases h
    exact .inl rfl
  · cases h
    exact .inl rfl
  · exact hread h

@[spec]
lemma scalar_spec (g : Graph) (place : Nat) :
    ⦃⌜True⌝⦄ g.scalar place ⦃post⟨fun _ => ⌜True⌝,
      fun fault => ⌜fault = .malformed ∨ g.Refuses place fault⌝⟩⦄ := by
  intro _
  cases h : g.scalar place with
  | ok value => trivial
  | error fault => exact refuses_of_scalar h

end Graph

end SlideDeck.Yaml
