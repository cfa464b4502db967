import SlideDeck.Proofs.Yaml.Scalar
import SlideDeck.Yaml.Value

/-! The faults in which making the values of nodes can end. Merging changes what mappings hold and makes texts
of keys, so that no node comes to refuse what it did not refuse before. -/

namespace SlideDeck.Yaml

open Std.Do

set_option mvcgen.warning false

namespace Graph

variable {g h k : Graph} {place : Nat} {fault : Fault}

lemma Softens.refuses (hs : g.Softens h) (hrefuses : h.Refuses place fault) : g.Refuses place fault := by
  cases hrefuses with
  | text hsoftens htext hscalar hfault =>
    obtain htag | htag := hs.tag place
    · exact .text (hs.trans hsoftens) htext (htag ▸ hscalar) (htag ▸ hfault)
    · rw [htag] at hfault
      cases hfault
  | momentOfMapping htag hmapping =>
    obtain hkept | hstr := hs.tag place
    · exact .momentOfMapping (hkept ▸ htag) (hs.isMapping place ▸ hmapping)
    · rw [hstr] at htag
      cases htag
  | unending hsoftens hunending => exact .unending (hs.trans hsoftens) hunending

lemma node_modify (f : GraphNode → GraphNode) (place other : Nat) :
    Graph.node (g.modify place f) other =
      if other = place ∧ place < g.size then f (g.node place) else g.node other := by
  rw [Graph.node, Graph.node, Graph.node, Array.getElem?_modify]
  by_cases hplace : other = place
  · subst hplace
    by_cases hlt : other < g.size
    · simp [hlt]
    · simp [hlt]
  · simp [hplace, Ne.symm hplace]

lemma Softens.setContent {pairs : List (Nat × Nat)} (hs : g.Softens h) (hmapping : g.isMapping place) :
    g.Softens (h.setContent place (.mapping pairs)) := by
  refine hs.trans ⟨fun other => ?_, fun other => ?_, fun {other text} htext => ?_⟩
  · rw [Graph.setContent, node_modify]
    split_ifs with hplace
    · exact .inl (hplace.1 ▸ rfl)
    · exact .inl rfl
  · rw [Graph.isMapping, Graph.setContent, node_modify]
    split_ifs with hplace
    · rw [hplace.1, hs.isMapping place, hmapping]
    · rfl
  · rw [Graph.setContent, node_modify] at htext
    split_ifs at htext
    exact htext

lemma Softens.setTag (hs : g.Softens h) : g.Softens (h.setTag place .str) := by
  refine hs.trans ⟨fun other => ?_, fun other => ?_, fun {other text} htext => ?_⟩
  · rw [Graph.setTag, node_modify]
    split_ifs with hplace
    · exact .inr rfl
    · exact .inl rfl
  · rw [Graph.isMapping, Graph.setTag, node_modify]
    split_ifs with hplace
    · rw [hplace.1]
      rfl
    · rfl
  · rw [Graph.setTag, node_modify] at htext
    split_ifs at htext with hplace
    · exact hplace.1 ▸ htext
    · exact htext

lemma Softens.plainKeys (hs : g.Softens h) : g.Softens (h.plainKeys place) := by
  rw [Graph.plainKeys]
  generalize h.pairs place = pairs
  induction pairs generalizing h with
  | nil => exact hs
  | cons pair rest ih =>
    rw [List.foldl_cons]
    split_ifs
    · exact ih hs.setTag
    · exact ih hs

lemma Softens.takeMerge {target : Nat} (hs : g.Softens h) (hmapping : g.isMapping place)
    (htake : h.takeMerge? place = some (target, k)) : g.Softens k := by
  obtain ⟨pair, -, hpair⟩ := Option.bind_eq_some_iff.mp htake
  obtain ⟨-, rfl⟩ := Prod.mk.inj (Option.some.inj hpair)
  exact hs.setContent hmapping

lemma Softens.isMapping_of_content {pairs : List (Nat × Nat)} (hs : g.Softens h)
    (hcontent : (h.node place).content = .mapping pairs) : g.isMapping place :=
  hs.isMapping place ▸ Graph.isMapping_of_content hcontent

@[spec]
lemma flattenFrom_spec (fuel : Nat) (merged : List (Nat × Nat)) (hs : g.Softens h)
    (hmapping : g.isMapping place) :
    ⦃⌜True⌝⦄ flattenFrom fuel merged place h ⦃post⟨fun h => ⌜g.Softens h⌝,
      fun fault => ⌜fault = .malformed⌝⟩⦄ := by
  induction fuel generalizing merged place h with
  | zero => mvcgen [flattenFrom]
  | succ fuel ih =>
    rw [flattenFrom]
    split
    · exact Triple.pure _ fun _ => (hs.setContent hmapping).plainKeys
    case h_2 target k htake =>
      have hk := hs.takeMerge hmapping htake
      -- What comes after the mappings of one key have been flattened.
      have hrest (merged) (r : Graph) : ⦃⌜g.Softens r⌝⦄ flattenFrom fuel merged place r
          ⦃post⟨fun h => ⌜g.Softens h⌝, fun fault => ⌜fault = .malformed⌝⟩⦄ := fun hr =>
        ih merged hr hmapping trivial
      split
      case h_1 hcontent =>
        exact Triple.bind _ _ (ih [] hk (hk.isMapping_of_content hcontent)) fun r => hrest _ r
      case h_2 items _ =>
        let softened : PostCond (List (Nat × Nat) × Graph) (.except Fault .pure) :=
          post⟨fun r => ⌜g.Softens r.2⌝, fun fault => ⌜fault = .malformed⌝⟩
        refine Triple.bind _ _ (foldlM_spec (Q := softened) items (fun item r => ?_) fun _ => hk) fun r =>
          hrest _ r.2
        split
        mvcgen [ih]
        exact Softens.isMapping_of_content ‹_› ‹_›
      · mvcgen

@[spec]
lemma flatten_spec (bound : Nat) (hs : g.Softens h) (hmapping : g.isMapping place) :
    ⦃⌜True⌝⦄ flatten bound h place ⦃post⟨fun h => ⌜g.Softens h⌝, fun fault => ⌜fault = .malformed⌝⟩⦄ :=
  flattenFrom_spec (bound + 1) [] hs hmapping

end Graph

def Builder.Stems (g : Graph) (b : Builder) : Prop := g.Softens b.graph

namespace Build

abbrev kept (g : Graph) : Assertion (.arg Builder (.except Fault .pure)) := fun b => ⌜b.Stems g⌝

abbrev ends {α : Type} (g : Graph) : PostCond α (.arg Builder (.except Fault .pure)) :=
  post⟨fun _ b => ⌜b.Stems g⌝, fun fault => ⌜fault = .malformed ∨ ∃ place, g.Refuses place fault⌝⟩

variable {g : Graph}

@[spec]
lemma fail_spec {α : Type} : ⦃kept g⦄ (fail : Build α) ⦃ends g⦄ := fun _ _ => .inl rfl

@[spec]
lemma put_spec (place : Nat) (value : Built) : ⦃kept g⦄ put place value ⦃ends g⦄ := by
  mvcgen [put]

@[spec]
lemma make_spec (place : Nat) : ⦃kept g⦄ make place ⦃ends g⦄ := by
  mvcgen [make]
  exact Or.imp id fun hrefuses => ⟨place, Graph.Softens.refuses ‹_› hrefuses⟩

@[spec]
lemma discard_make_spec (place : Nat) : ⦃kept g⦄ discard (make place) ⦃ends g⦄ :=
  Triple.bind (make place) (fun _ => pure ()) (make_spec place) fun _ => Triple.pure _ .rfl

@[spec]
lemma makeKey_spec (place : Nat) : ⦃kept g⦄ makeKey place ⦃ends g⦄ := by
  mvcgen [makeKey]

@[spec]
lemma makeEntries_spec (pairs : List (Nat × Nat)) (done : List (Scalar × Nat)) :
    ⦃kept g⦄ makeEntries pairs done ⦃ends g⦄ := by
  induction pairs generalizing done with
  | nil => mvcgen [makeEntries]
  | cons pair rest ih => mvcgen [makeEntries, ih]

lemma entries_spec {place : Nat} (hmapping : g.isMapping place) :
    ⦃kept g⦄ entries place ⦃ends g⦄ := by
  mvcgen [entries]
  exact Or.inl

@[spec]
lemma makePair_spec (item : Nat) : ⦃kept g⦄ makePair item ⦃ends g⦄ := by
  mvcgen [makePair]

@[spec]
lemma fill_spec (place : Nat) : ⦃kept g⦄ fill place ⦃ends g⦄ := by
  have hitems (items : List Nat) := forM_spec items (discard_make_spec (g := g))
  have hpairs (items : List Nat) := mapM_spec items (makePair_spec (g := g))
  mvcgen [fill, hitems, hpairs, entries_spec]
  all_goals exact Graph.Softens.isMapping_of_content ‹_› ‹_›

@[spec]
lemma fillAll_spec (fuel : Nat) : ⦃kept g⦄ fillAll fuel ⦃ends g⦄ := by
  have hfill (places : List Nat) := forM_spec places (fill_spec (g := g))
  induction fuel with
  | zero => mvcgen [fillAll]
  | succ fuel ih => mvcgen [fillAll, hfill, ih]

@[spec]
lemma document_spec (size root : Nat) : ⦃kept g⦄ document size root ⦃ends g⦄ := by
  mvcgen [document]

end Build

lemma refuses_of_read {shape : Shape} {source : Source} {graph : Graph} {root : Nat} {fault : Fault}
    (hread : Graph.read source = .ok (graph, some root)) (h : read shape source = .error fault) :
    fault = .malformed ∨ ∃ place, graph.Refuses place fault := by
  have hbuild : ⦃⌜graph.Softens graph⌝⦄
      ((Build.document graph.size root).run (.start graph) >>= fun out => pure (out.2.extract shape root))
      ⦃post⟨fun _ => ⌜True⌝, fun fault => ⌜fault = .malformed ∨ ∃ place, graph.Refuses place fault⌝⟩⦄ :=
    Triple.bind _ _ (run_spec (Build.document_spec graph.size root)) fun _ => Triple.pure _ fun _ => trivial
  rw [read, hread] at h
  exact error_of_spec hbuild (.refl graph) h

end SlideDeck.Yaml
