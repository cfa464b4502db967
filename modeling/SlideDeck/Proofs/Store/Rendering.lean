import SlideDeck.Proofs.Store.Sketch

/-! What writing a node comes to. It ends in a text unless the node is its own ancestor or something that
cannot be written lies at or below it. -/

namespace SlideDeck

namespace Store

/-- Some node at or below `n` has something that cannot be written: arguments that are no texts, a text that is
none, or a text for the number of a slide. -/
def HoldsForeign (s : Store) (n : NodeId) : Prop := ∃ m, s.Climbs m n ∧ (s.node m).isWritable true = false

/-- Some running text at or below `n` is no text but this value. -/
def HoldsUntranslatable (s : Store) (n : NodeId) (value : Atom) : Prop :=
  ∃ m, s.Climbs m n ∧ s.kind m = .text ∧ (s.node m).odd.lookup "text" = some value

inductive Obstructs (s : Store) (n : NodeId) : Obstacle → Prop
  | unending (h : s.Cyclic n) : Obstructs s n .unending
  | foreign (h : s.HoldsForeign n) : Obstructs s n .foreign
  | untranslatable {value : Atom} (h : s.HoldsUntranslatable n value) :
      Obstructs s n (.untranslatable value.typeName)

end Store

variable {s : Store} {m n : NodeId} {t : Tree} {hasStep : Bool} {cause : Obstacle}

lemma Tree.Matches.nodes_eq (ht : t.Matches s) : t.nodes = t.ids.map s.node := by
  induction ht with
  | node n children hids h ih =>
    rw [Tree.nodes, Tree.ids, Forest.nodes_eq, Forest.ids_eq, List.map_cons, List.map_flatMap]
    exact congrArg _ (List.flatMap_congr ih)

lemma Tree.Matches.not_isWritable_iff (hs : s.WellFormed) (ht : t.Matches s) :
    t.isWritable true = false ↔ s.HoldsForeign t.id := by
  rw [Tree.isWritable, ht.nodes_eq, List.all_map, List.all_eq_false]
  simp only [Function.comp_apply, Bool.not_eq_true, Store.HoldsForeign, ht.mem_ids_iff hs]

namespace Store

lemma not_holdsForeign (h : ∀ m < s.size, (s.node m).isWritable true) (n : NodeId) : ¬ s.HoldsForeign n := by
  rintro ⟨m, -, hm⟩
  have hwritable := forall_node (P := fun node => node.isWritable true) rfl h m
  simp [hwritable] at hm

lemma HoldsUntranslatable.holdsForeign {value : Atom} (h : s.HoldsUntranslatable n value) : s.HoldsForeign n := by
  obtain ⟨m, hm, hkind, hodd⟩ := h
  refine ⟨m, hm, ?_⟩
  have hhalts : ((s.node m).halt? true).isNone = false := by
    rw [Node.halt?]
    split_ifs with hhalts htext
    · rfl
    · simp [hodd]
    · exact absurd hkind htext
  rw [Node.isWritable, hhalts, Bool.false_and]

lemma Obstructs.of_halt? (hm : s.Climbs m n) (h : (s.node m).halt? hasStep = some cause)
    (hstep : hasStep = true ∨ cause ≠ .foreign) : s.Obstructs n cause := by
  by_cases hforeign : cause = .foreign
  · obtain rfl := hforeign
    obtain rfl : hasStep = true := by simpa using hstep
    exact .foreign ⟨m, hm, by simp [Node.isWritable, h]⟩
  · rw [Node.halt?] at h
    split_ifs at h with hhalts htext
    · exact absurd (Option.some.inj h).symm hforeign
    · obtain ⟨value, hodd, rfl⟩ := Option.map_eq_some_iff.mp h
      exact .untranslatable ⟨m, hm, htext, hodd⟩

lemma exists_halt?_of_sketch (hs : s.WellFormed) {depth : ℕ} (h : s.sketch hasStep depth n = .error cause)
    (hcause : cause ≠ .unending) : ∃ m, s.Climbs m n ∧ (s.node m).halt? hasStep = some cause := by
  induction depth generalizing n with
  | zero => exact absurd (Except.error.inj h).symm hcause
  | succ depth ih =>
    rw [sketch] at h
    obtain hcycle | hhalt | hbelow := sketchAround_eq_error h
    · exact absurd hcycle hcause
    · exact ⟨n, .refl, hhalt⟩
    · obtain ⟨c, hc, hfails⟩ := gather_eq_error hbelow
      obtain ⟨m, hm, hhalt⟩ := ih hfails
      exact ⟨m, hm.tail ((hs.mem_children_iff n c).mp hc), hhalt⟩

lemma rendering_text (hs : s.WellFormed) (ht : s.tree? n = some t) (htexts : ¬ s.HoldsForeign n)
    (step : String) : (s.rendering (some step) n).outcome = .ok (t.render step) := by
  obtain ⟨rfl, hmatches⟩ := matches_of_tree? ht
  have hwritable : t.isWritable true = true := by
    rw [← hmatches.not_isWritable_iff hs] at htexts
    simpa using htexts
  rw [rendering_of_tree? hs _ ht, Tree.write, Option.isSome_some, if_pos hwritable, Option.getD_some]

lemma rendering_ok_iff (hs : s.WellFormed) (step : String) :
    (∃ text, (s.rendering (some step) n).outcome = .ok text) ↔
      ¬ s.Cyclic n ∧ ¬ s.HoldsForeign n := by
  cases h : s.tree? n with
  | none =>
    have hn := (tree?_eq_none_iff hs).mp h
    refine iff_of_false ?_ fun hwritten => hwritten.1 hn
    rintro ⟨text, htext⟩
    cases hsketch : s.sketch true (s.size + 1) n with
    | error cause => simp [Store.rendering, hsketch, Except.bind] at htext
    | ok pieces? => exact treeWithin_ne_none_of_sketch hs hsketch h
  | some t =>
    obtain ⟨rfl, ht⟩ := matches_of_tree? h
    have hwritable := ht.not_isWritable_iff hs
    rw [rendering_of_tree? hs _ h, Tree.write]
    cases hw : t.isWritable true with
    | false => simp [hw, hwritable.mp hw]
    | true => simp [hw, ht.not_cyclic hs, ← hwritable]

lemma obstructs_of_write (hs : s.WellFormed) (ht : t.Matches s) {step? : Option String}
    (h : t.write step? = .error cause) (hstep : step?.isSome = true ∨ cause ≠ .foreign) : s.Obstructs t.id cause := by
  rw [Tree.write] at h
  split_ifs at h with hwritable
  cases hhalt : t.halt? step?.isSome with
  | some obstacle =>
    obtain rfl : obstacle = cause := by simpa [hhalt] using h
    rw [Tree.halt?, ht.nodes_eq] at hhalt
    obtain ⟨node, hnode, hhalt⟩ := List.exists_of_findSome?_eq_some hhalt
    obtain ⟨m, hm, rfl⟩ := List.mem_map.mp hnode
    exact .of_halt? ((ht.mem_ids_iff hs).mp hm) hhalt hstep
  | none =>
    obtain rfl : cause = .foreign := by simpa [hhalt] using h.symm
    rw [hstep.resolve_right fun hne => hne rfl, Bool.not_eq_true] at hwritable
    exact .foreign ((ht.not_isWritable_iff hs).mp hwritable)

lemma obstructs_of_rendering (hs : s.WellFormed) {step? : Option String}
    (h : (s.rendering step? n).outcome = .error cause) (hstep : step?.isSome = true ∨ cause ≠ .foreign) :
    s.Obstructs n cause := by
  cases ht : s.tree? n with
  | some t =>
    rw [rendering_of_tree? hs _ ht] at h
    obtain ⟨rfl, hmatches⟩ := matches_of_tree? ht
    exact obstructs_of_write hs hmatches h hstep
  | none =>
    cases hsketch : s.sketch step?.isSome (s.size + 1) n with
    | ok pieces? => exact absurd ht (treeWithin_ne_none_of_sketch hs hsketch)
    | error obstacle =>
      obtain rfl : obstacle = cause := by simpa [Store.rendering, hsketch, Except.bind] using h
      by_cases hcause : obstacle = .unending
      · exact hcause ▸ .unending ((tree?_eq_none_iff hs).mp ht)
      · obtain ⟨m, hm, hhalt⟩ := exists_halt?_of_sketch hs hsketch hcause
        exact .of_halt? hm hhalt hstep

end Store

end SlideDeck
