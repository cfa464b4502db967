import SlideDeck.Proofs.Store.Graft
import SlideDeck.Proofs.Subtree

/-! What lies below a node: whether a kind occurs there, and where each node below is written. -/

namespace SlideDeck

namespace Store

def Below (s : Store) (m n : NodeId) : Prop := ∃ p, s.parent? m = some p ∧ s.Climbs p n

def HoldsBelow (s : Store) (kind : Kind) (n : NodeId) : Prop := ∃ m, s.Below m n ∧ s.kind m = kind

variable {s : Store} {kind : Kind} {m n r : NodeId} {t : Tree}

lemma Below.of_parent? (h : s.parent? m = some n) : s.Below m n := ⟨n, h, .refl⟩

lemma Below.climbs (h : s.Below m n) : s.Climbs m n := by
  obtain ⟨p, hp, hclimbs⟩ := h
  exact .head hp hclimbs

lemma Below.up (h : s.Below m n) (hclimbs : s.Climbs n r) : s.Below m r := by
  obtain ⟨p, hp, hpn⟩ := h
  exact ⟨p, hp, hpn.trans hclimbs⟩

lemma HoldsBelow.up (h : s.HoldsBelow kind n) (hclimbs : s.Climbs n r) : s.HoldsBelow kind r := by
  obtain ⟨m, hm, hkind⟩ := h
  exact ⟨m, hm.up hclimbs, hkind⟩

end Store

namespace Tree.Matches

variable {s : Store} {kind : Kind} {m : NodeId} {t : Tree}

lemma kind_eq (ht : t.Matches s) : t.kind = s.kind t.id := by
  cases ht
  rfl

lemma root_eq (ht : t.Matches s) : t.root = s.node t.id := by
  cases ht
  rfl

lemma holds_iff (hs : s.WellFormed) (ht : t.Matches s) :
    t.holds kind = true ↔ s.HoldsBelow kind t.id := by
  induction ht with
  | node n children hids h ih =>
    rw [Tree.holds, Forest.holds_eq, List.any_eq_true]
    constructor
    · rintro ⟨t, ht, hfound⟩
      have hparent := parent?_of_mem hs hids ht
      rw [Bool.or_eq_true, beq_iff_eq, (h t ht).kind_eq] at hfound
      rcases hfound with hkind | hbelow
      · exact ⟨t.id, .of_parent? hparent, hkind⟩
      · exact ((ih t ht).mp hbelow).up (.of_parent? hparent)
    · rintro ⟨m, ⟨p, hp, hclimbs⟩, hkind⟩
      rcases hclimbs.cases_tail with rfl | ⟨q, hpq, hq⟩
      · obtain ⟨t, ht, rfl⟩ := exists_of_parent? hs hids hp
        exact ⟨t, ht, by simp [(h t ht).kind_eq, hkind]⟩
      · obtain ⟨t, ht, rfl⟩ := exists_of_parent? hs hids hq
        have hbelow := (ih t ht).mpr ⟨m, ⟨p, hp, hpq⟩, hkind⟩
        exact ⟨t, ht, by simp [hbelow]⟩

lemma exists_fills (hs : s.WellFormed) (ht : t.Matches s) (hm : m ∈ t.ids) :
    ∃ (u : Tree) (x : Cut), u.id = m ∧ u.Matches s ∧ u.Fills x t := by
  induction ht with
  | node n children hids h ih =>
    rcases List.mem_cons.mp hm with rfl | hm
    · exact ⟨_, _, rfl, .node m children hids h, .whole⟩
    · have hroot := isContainer_of_mem hs hids hm
      obtain ⟨t, ht, hmt⟩ := Forest.mem_ids.mp hm
      obtain ⟨u, x, hid, hu, hfills⟩ := ih t ht hmt
      obtain ⟨left, right, rfl⟩ := List.append_of_mem ht
      exact ⟨u, _, hid, hu, .within n left right hroot hfills⟩

end Tree.Matches

namespace Store

variable {s : Store} {m n : NodeId} {t : Tree}

lemma has?_eq_true_iff (kind : Kind) (hs : s.WellFormed) (ht : s.tree? n = some t) :
    s.has? kind n = some true ↔ s.HoldsBelow kind n := by
  obtain ⟨rfl, hmatches⟩ := matches_of_tree? ht
  rw [has?_of_tree? kind ht, Option.some_inj, hmatches.holds_iff hs]

lemma exists_fills (hs : s.WellFormed) (ht : s.tree? n = some t) (hm : s.Climbs m n) :
    ∃ u x, s.tree? m = some u ∧ u.Fills x t := by
  obtain ⟨rfl, hmatches⟩ := matches_of_tree? ht
  obtain ⟨u, x, rfl, hu, hfills⟩ := hmatches.exists_fills hs ((hmatches.mem_ids_iff hs).mpr hm)
  exact ⟨u, x, tree?_of_matches hs hu, hfills⟩

/-- What is written of the tree of `root` is what is written of `n`, between two other texts. -/
def Shows (s : Store) (step : String) (root n : NodeId) (before shown after : String) : Prop :=
  ∃ t u x, s.tree? root = some t ∧ s.tree? n = some u ∧ u.Fills x t ∧
    before = Layout.render "" step x.before ∧ shown = Layout.render (x.indent step) step u.pieces ∧
    after = Layout.render "" step x.after

lemma exists_shows (hs : s.WellFormed) (ht : s.tree? n = some t) (hm : s.Climbs m n) (step : String) :
    ∃ before shown after, s.Shows step n m before shown after ∧
      t.render step = before ++ shown ++ after := by
  obtain ⟨u, x, hu, hfills⟩ := exists_fills hs ht hm
  exact ⟨_, _, _, ⟨t, u, x, ht, hu, hfills, rfl, rfl, rfl⟩, hfills.render_eq step⟩

open scoped Classical in
/-- The options that a frame prints: its own, and the one for code exactly if it lacks it and has code below
it. -/
noncomputable def printedOptions (s : Store) (n : NodeId) (options : List String) : List String :=
  if fragile ∉ options ∧ s.HoldsBelow .code n then options ++ [fragile] else options

open Layout in
lemma pieces_frame (hs : s.WellFormed) (ht : s.tree? n = some t) {name : String} {a : Arguments}
    (h : (s.node n).content = .environment .frame name a) : ∃ rest, t.pieces =
      overlayLine (s.node n).slides? ++ .line (overlayLine (s.node n).slides?).length
        (beginLine name (s.printedOptions n a.options) a) :: rest := by
  obtain ⟨rfl, hmatches⟩ := matches_of_tree? ht
  rw [← hmatches.root_eq] at h ⊢
  have hprinted : s.printedOptions t.id a.options =
      environmentOptions .frame a.options (t.holds .code) := by
    rw [printedOptions, environmentOptions, ← hmatches.holds_iff hs]
    simp
  rw [hprinted]
  exact Tree.pieces_frame h

end Store

end SlideDeck
