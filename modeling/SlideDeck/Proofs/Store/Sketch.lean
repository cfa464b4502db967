import SlideDeck.Proofs.Store.Settling

/-! The sketch of a node whose tree can be read is that of the tree, and of no other node is there one. -/

namespace SlideDeck

def Tree.sketch (hasStep : Bool) (t : Tree) : Except Obstacle (Option (List Piece)) :=
  match t.halt? hasStep with
  | some cause => .error cause
  | none => .ok (if t.nodes.any Node.failsLate then none else some t.pieces)

lemma Tree.isWritable_eq (hasStep : Bool) (t : Tree) :
    t.isWritable hasStep = ((t.halt? hasStep).isNone && !t.nodes.any Node.failsLate) := by
  rw [isWritable, halt?]
  induction t.nodes with
  | nil => rfl
  | cons n rest ih =>
    rw [List.all_cons, ih, List.findSome?_cons, List.any_cons, Node.isWritable]
    cases n.halt? hasStep <;> cases n.failsLate <;> simp

lemma Layout.node_of_seeksCode {n : Node} (h : n.seeksCode = false) (holdsCode holdsCode' : Bool) :
    Layout.node n holdsCode = Layout.node n holdsCode' := by
  funext body
  rw [Node.seeksCode] at h
  cases hcontent : n.content with
  | environment form name a =>
    have hsame : environmentOptions form a.options holdsCode = environmentOptions form a.options holdsCode' := by
      cases form with
      | plain | itemize => rfl
      | frame =>
        rw [hcontent] at h
        have hfragile : fragile ∈ a.options := by simpa using h
        simp [environmentOptions, hfragile]
    simp only [node, hcontent, hsame]
  | _ => simp only [node, hcontent]

namespace Store

variable {s : Store} {n : NodeId} {t : Tree} {hasStep : Bool} {cause : Obstacle}

lemma gather_eq_error {sketch : NodeId → Except Obstacle (Option (List Piece))} {ids : List NodeId}
    (h : Layout.gather sketch ids = .error cause) : ∃ c ∈ ids, sketch c = .error cause := by
  induction ids with
  | nil => cases h
  | cons c rest ih =>
    rw [Layout.gather] at h
    cases hfirst : sketch c with
    | error cause' =>
      rw [hfirst] at h
      exact ⟨c, List.mem_cons_self, hfirst.trans h⟩
    | ok first? =>
      cases hrest : Layout.gather sketch rest with
      | error cause' =>
        rw [hfirst, hrest] at h
        obtain ⟨c', hc', hfails⟩ := ih (hrest.trans h)
        exact ⟨c', List.mem_cons_of_mem c hc', hfails⟩
      | ok rest? =>
        rw [hfirst, hrest] at h
        cases h

lemma gather_eq_ok {sketch : NodeId → Except Obstacle (Option (List Piece))} {ids : List NodeId}
    {pieces? : Option (List Piece)} (h : Layout.gather sketch ids = .ok pieces?) :
    ∀ c ∈ ids, ∃ pieces?, sketch c = .ok pieces? := by
  induction ids generalizing pieces? with
  | nil => exact List.forall_mem_nil _
  | cons c rest ih =>
    rw [Layout.gather] at h
    cases hfirst : sketch c with
    | error cause =>
      rw [hfirst] at h
      cases h
    | ok first? =>
      cases hrest : Layout.gather sketch rest with
      | error cause =>
        rw [hfirst, hrest] at h
        cases h
      | ok rest? => exact List.forall_mem_cons.mpr ⟨⟨first?, hfirst⟩, ih hrest⟩

lemma codeBelow_of_treeWithin {depth : ℕ} (h : s.treeWithin depth n = some t) :
    s.codeBelow n = .ok ((s.node n).seeksCode && t.holds .code) := by
  have hhas : s.has? .code n = some (t.holds .code) := by
    have hfound := hasWithin_of_treeWithin .code h
    rw [has?, ← (s.settles_hasWithin .code).eq_of_ne_nothing (by rw [hfound]; simp), hfound]
  rw [codeBelow, hhas]
  cases (s.node n).seeksCode <;> rfl

lemma sketchAround_eq_error {below : Except Obstacle (Option (List Piece))}
    (h : s.sketchAround hasStep n below = .error cause) :
    cause = .unending ∨ (s.node n).halt? hasStep = some cause ∨ below = .error cause := by
  rw [sketchAround] at h
  cases hcode : s.codeBelow n with
  | error cause' =>
    rw [codeBelow] at hcode
    split_ifs at hcode
    cases hhas : s.has? .code n with
    | some found => simp [hhas] at hcode
    | none =>
      have hcause : cause' = .unending := by simpa [hhas] using hcode.symm
      exact .inl ((Except.error.inj (h.symm.trans (by rw [codeBelow, if_pos ‹_›, hhas]; rfl))).trans rfl)
  | ok holdsCode =>
    cases hhalt : (s.node n).halt? hasStep with
    | some cause' => simp [hcode, hhalt, Except.bind] at h; simp [h]
    | none =>
      cases hkind : (s.node n).kind.isContainer with
      | false => simp [hcode, hhalt, hkind, Except.bind] at h
      | true =>
        cases below with
        | error cause' => simp [hcode, hhalt, hkind, Except.bind, Except.map] at h; simp [h]
        | ok body? => simp [hcode, hhalt, hkind, Except.bind, Except.map] at h

lemma sketchAround_eq_ok {below : Except Obstacle (Option (List Piece))} {pieces? : Option (List Piece)}
    (h : s.sketchAround hasStep n below = .ok pieces?) :
    (s.node n).kind.isContainer = false ∨ ∃ body?, below = .ok body? := by
  rw [sketchAround] at h
  cases hcode : s.codeBelow n with
  | error cause => simp [hcode, Except.bind] at h
  | ok holdsCode =>
    cases hhalt : (s.node n).halt? hasStep with
    | some cause => simp [hcode, hhalt, Except.bind] at h
    | none =>
      cases hkind : (s.node n).kind.isContainer with
      | false => exact .inl rfl
      | true =>
        cases below with
        | error cause => simp [hcode, hhalt, hkind, Except.bind, Except.map] at h
        | ok body? => exact .inr ⟨body?, rfl⟩

lemma treeWithin_ne_none_of_sketch (hs : s.WellFormed) {depth : ℕ} {pieces? : Option (List Piece)}
    (h : s.sketch hasStep depth n = .ok pieces?) : s.treeWithin depth n ≠ none := by
  induction depth generalizing n pieces? with
  | zero => cases h
  | succ depth ih =>
    rw [treeWithin, ne_eq, Option.map_eq_none_iff, mapM_eq_none]
    rintro ⟨c, hc, hnone⟩
    rw [sketch] at h
    obtain hleaf | ⟨body?, hbody⟩ := sketchAround_eq_ok h
    · rw [hs.children_eq_nil n hleaf] at hc
      cases hc
    · obtain ⟨pieces?, hpieces⟩ := gather_eq_ok hbody c hc
      exact ih hpieces hnone

lemma gather_eq_sketch {sketch : NodeId → Except Obstacle (Option (List Piece))} {ids : List NodeId} {f : Forest}
    (h : List.Forall₂ (fun c t => sketch c = t.sketch hasStep) ids f) : Layout.gather sketch ids =
      match (Forest.nodes f).findSome? (·.halt? hasStep) with
      | some cause => .error cause
      | none => .ok (if (Forest.nodes f).any Node.failsLate then none else some (Forest.pieces f)) := by
  induction h with
  | nil => rfl
  | @cons c t ids f hc _ ih =>
    rw [Layout.gather, hc, ih, Forest.nodes, List.findSome?_append, List.any_append, Forest.pieces, Tree.sketch, Tree.halt?]
    cases t.nodes.findSome? (·.halt? hasStep) with
    | some cause => rfl
    | none =>
      cases (Forest.nodes f).findSome? (·.halt? hasStep) with
      | some cause => rfl
      | none => cases t.nodes.any Node.failsLate <;> cases (Forest.nodes f).any Node.failsLate <;> rfl

lemma sketch_of_treeWithin (hs : s.WellFormed) {depth : ℕ} (h : s.treeWithin depth n = some t) :
    s.sketch hasStep depth n = t.sketch hasStep := by
  induction depth generalizing n t with
  | zero => simp [treeWithin] at h
  | succ depth ih =>
    have hcode := codeBelow_of_treeWithin h
    obtain ⟨children, hchildren, rfl⟩ := Option.map_eq_some_iff.mp h
    have hbelow := gather_eq_sketch ((mapM_eq_some.mp hchildren).imp fun c t ht => ih ht)
    have hholds : Layout.node (s.node n) ((s.node n).seeksCode && Forest.holds .code children) =
        Layout.node (s.node n) (Forest.holds .code children) := by
      cases hseeks : (s.node n).seeksCode with
      | false => exact Layout.node_of_seeksCode hseeks _ _
      | true => rfl
    rw [sketch, sketchAround, hbelow, hcode, Tree.sketch, Tree.halt?, Tree.nodes, List.findSome?_cons, List.any_cons, Tree.pieces]
    simp only [Except.bind, Tree.holds, hholds]
    cases (s.node n).halt? hasStep with
    | some cause => rfl
    | none =>
      simp only
      cases hkind : (s.node n).kind.isContainer with
      | false =>
        obtain rfl : children = [] := by
          rw [hs.children_eq_nil n hkind] at hchildren
          simpa using hchildren.symm
        cases (s.node n).failsLate <;> rfl
      | true =>
        have hlate : (s.node n).failsLate = false := by
          cases hraw : (s.node n).kind <;> simp [hraw, Kind.isContainer] at hkind <;> simp [Node.failsLate, hraw]
        rw [hlate, Bool.false_or]
        cases (Forest.nodes children).findSome? (·.halt? hasStep) with
        | some cause => rfl
        | none => cases (Forest.nodes children).any Node.failsLate <;> rfl

lemma rendering_of_tree? (hs : s.WellFormed) (step? : Option String) (h : s.tree? n = some t) :
    (s.rendering step? n).outcome = t.write step? := by
  simp only [Store.rendering, sketch_of_treeWithin hs h, Tree.sketch, Tree.write, Tree.isWritable_eq]
  cases t.halt? step?.isSome with
  | some cause => rfl
  | none => cases t.nodes.any Node.failsLate <;> rfl

end Store

end SlideDeck
