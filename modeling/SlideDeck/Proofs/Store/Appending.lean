import SlideDeck.Proofs.Store.DeckEdits
import SlideDeck.Proofs.Store.Embedding

/-! What is built of new nodes leaves those that were there as they were, or adds to the children of some of them. -/

namespace SlideDeck

namespace Store

structure Appends (kept : NodeId → Prop) (s t : Store) : Prop where
  size_le : s.size ≤ t.size
  node {m : NodeId} : m < s.size → { t.node m with children := s.children m } = s.node m
  kept {m : NodeId} : m < s.size → kept m → t.node m = s.node m

namespace Appends

variable {kept : NodeId → Prop} {s t : Store}

lemma refl (kept : NodeId → Prop) (s : Store) : s.Appends kept s := ⟨Nat.le_refl _, fun _ => rfl, fun _ _ => rfl⟩

lemma mono {kept' : NodeId → Prop} (h : s.Appends kept t) (hkept : ∀ m, kept' m → kept m) : s.Appends kept' t :=
  ⟨h.size_le, h.node, fun hm hkept' => h.kept hm (hkept _ hkept')⟩

def MayFill (kept : NodeId → Prop) (s : Store) (c : NodeId) : Prop := ¬ kept c ∨ s.size ≤ c

section

variable (h : s.Appends kept t)

include h

lemma create (draft : Draft) : s.Appends kept (t.create draft).1 where
  size_le := h.size_le.trans (size_lt_size_create t draft).le
  node hm := by rw [node_create_of_lt t draft (hm.trans_le h.size_le), h.node hm]
  kept hm hkept := (node_create_of_lt t draft (hm.trans_le h.size_le)).trans (h.kept hm hkept)

lemma modify {n : NodeId} (hn : s.size ≤ n) (f : Node → Node) : s.Appends kept (t.modify n f) := by
  have hsame {m : NodeId} (hm : m < s.size) : (t.modify n f).node m = t.node m := by
    have hne : n ≠ m := (Nat.ne_of_lt (hm.trans_le hn)).symm
    rw [node_modify, if_neg fun heq => hne heq.1]
  exact ⟨h.size_le.trans (size_modify t n f).ge, fun hm => by rw [hsame hm, h.node hm],
    fun hm hkept => by rw [hsame hm, h.kept hm hkept]⟩

lemma fill {c : NodeId} (hc : MayFill kept s c) (f : List NodeId → List NodeId) :
    s.Appends kept (t.modify c fun node => { node with children := f node.children }) where
  size_le := h.size_le.trans (size_modify t c _).ge
  node {m} hm := by
    rw [node_modify]
    split <;> exact h.node hm
  kept {m} hm hkept := by
    have hne : c ≠ m := by
      rintro rfl
      exact hc.elim (fun hno => hno hkept) (Nat.not_le_of_lt hm)
    rw [node_modify, if_neg fun heq => hne heq.1, h.kept hm hkept]

lemma le_createIn (c : NodeId) (draft : Draft) (place : Place) : s.size ≤ (t.createIn c draft place).2 :=
  h.size_le.trans (createIn_snd c draft place).ge

lemma createIn {c : NodeId} (hc : MayFill kept s c) (draft : Draft) (place : Place) :
    s.Appends kept (t.createIn c draft place).1 := by
  rw [createIn_fst]
  exact ((h.create draft).modify h.size_le _).fill hc _

lemma createAllIn {c : NodeId} (hc : MayFill kept s c) (drafts : List Draft) :
    s.Appends kept (t.createAllIn c drafts) := by
  induction drafts generalizing t with
  | nil => exact h
  | cons draft rest ih => exact ih (h.createIn hc draft .last)

end

end Appends

variable {s t : Store}

lemma WellFormed.rename_node (hs : s.WellFormed) {f : NodeId → NodeId} (hf : ∀ n < s.size, f n = n) (n : NodeId) :
    (s.node n).rename f = s.node n := by
  have hparent : (s.node n).parent?.map f = (s.node n).parent? := by
    cases hp : (s.node n).parent? with
    | none => rfl
    | some c => rw [Option.map_some, hf c (hs.parent_lt_size hp)]
  have hchildren : (s.node n).children.map f = (s.node n).children := by
    conv_rhs => rw [← List.map_id (s.node n).children]
    refine List.map_congr_left fun c hc => hf c ?_
    exact lt_size_of_parent? s c ((hs.mem_children_iff n c).mp hc)
  have hcontent : (s.node n).content.rename f = (s.node n).content := by
    have hlisting := hs.listing n
    cases hc : (s.node n).content with
    | code title language listing =>
      rw [hc] at hlisting
      rw [Content.rename, hf listing (lt_size_of_parent? s listing (hlisting listing rfl).1)]
    | _ => rfl
  rw [Node.rename, hparent, hchildren, hcontent]

lemma Appends.embeds (h : s.Appends (fun _ => True) t) (hs : s.WellFormed) :
    s.Embeds (moveUp s.size (t.size - s.size)) t := by
  refine Spread.of_start h.size_le (fun i hi => ?_) fun i x hx => ?_
  · have hnode := h.kept hi trivial
    simp only [Store.node, Array.getD_eq_getD_getElem?] at hnode
    have ht : i < t.nodes.size := Nat.lt_of_lt_of_le hi h.size_le
    rw [Array.getElem?_eq_getElem hi, Array.getElem?_eq_getElem ht] at hnode ⊢
    exact congrArg some hnode
  · have hnode : s.node i = x := by rw [Store.node, Array.getD_eq_getD_getElem?, hx, Option.getD_some]
    rw [← hnode, hs.rename_node fun n hn => moveUp_of_lt hn]

end Store

namespace Deck

open Store (Appends)
open Store.Appends (MayFill)

variable {kept : NodeId → Prop} {s t : Store}

lemma appends_addOutline (h : s.Appends kept t) {preamble : NodeId} (hp : MayFill kept s preamble) (title : String) :
    s.Appends kept (addOutline t preamble title) := by
  let hook := t.createIn preamble (.containingCommand "AtBeginSection") .last
  let slide := hook.1.createIn hook.2 (.environment "frame" [title]) .last
  have hhook : s.Appends kept hook.1 := h.createIn hp _ _
  have hslide : s.Appends kept slide.1 := hhook.createIn (.inr (h.le_createIn _ _ _)) _ _
  exact hslide.createIn (.inr (hhook.le_createIn hook.2 (.environment "frame" [title]) .last))
    (.command "tableofcontents" { options := ["currentsection"] }) .last

lemma appends_buildPreamble (h : s.Appends kept (t.create .header).1) (hp : MayFill kept s t.size) (plan : Preamble)
    (outlineTitle? : Option String) : s.Appends kept (buildPreamble t plan outlineTitle?).1 := by
  have hline := h.createIn hp (.command "documentclass" plan.classArguments) .last
  have hmarked := hline.modify h.size_le fun node => { node with foreign? := plan.foreign? }
  have hfilled := hmarked.createAllIn hp (preambleDrafts plan.packages)
  rw [buildPreamble]
  simp only [Store.create_snd, Store.createIn_snd]
  cases outlineTitle? with
  | none => exact hfilled
  | some title => exact appends_addOutline hfilled hp title

lemma appends_build {settings : LooseSettings} {place : ℕ} {outlineTitle? : Option String} {d : Deck}
    (h : build s settings place outlineTitle? = .ok (t, d)) : s.Appends kept t := by
  obtain ⟨plan, -, rfl, -⟩ := exists_of_build h
  have hdocument := (Appends.refl kept s).create (.environment "document" [])
  exact (appends_buildPreamble (hdocument.create .header) (.inr hdocument.size_le) plan outlineTitle?).create .header

lemma embeds_parts (hs : s.WellFormed) {settings : LooseSettings} {place : ℕ} {outlineTitle? : Option String} {d : Deck}
    (h : build s settings place outlineTitle? = .ok (t, d)) :
    let document := s.create (.environment "document" [])
    let header := document.1.create .header
    ∃ f : NodeId ↪ NodeId, (∀ n < s.size, f n = n) ∧ header.1.Embeds f t ∧ f document.2 = d.document ∧
      f header.2 = d.header := by
  intro document header
  obtain ⟨plan, -, rfl, rfl⟩ := exists_of_build h
  have hsize : document.1.size = s.size + 1 := Store.size_create s _
  have hbuilt := appends_buildPreamble ((Appends.refl (fun _ => True) document.1).create .header)
    (.inr (Nat.le_refl _)) plan outlineTitle?
  have hembeds := hbuilt.embeds hs.create
  obtain ⟨hheader, hplace⟩ := hembeds.create .header
  refine ⟨_, fun n hn => moveUp_of_lt ?_, hheader, moveUp_of_lt ?_, hplace.symm⟩
  · omega
  · rw [hsize, Store.create_snd]
    exact Nat.lt_succ_self _

end Deck

end SlideDeck
