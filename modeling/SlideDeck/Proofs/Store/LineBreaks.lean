import SlideDeck.Proofs.LineBreaks
import SlideDeck.Proofs.Store.Below
import SlideDeck.Proofs.Store.Environments

/-! The lines of what is written of a tree: how many there are, and that each node begins one of its own if no
leaf stops within a line. -/

namespace SlideDeck

open Marks

def WholeLines (text : String) : Prop := text = "" ∨ EndsLine text

namespace Layout

variable {base step name title : String} {a : Arguments} {body p q : List Piece}

def EndLines (pieces : List Piece) : Prop := ∀ p ∈ pieces, EndsLine p.text

lemma endLines_append : EndLines (p ++ q) ↔ EndLines p ∧ EndLines q := List.forall_mem_append

lemma endLines_singleton {piece : Piece} : EndLines [piece] ↔ EndsLine piece.text := List.forall_mem_singleton

lemma EndLines.deepen (h : EndLines p) : EndLines (deepen p) := by
  intro piece hpiece
  obtain ⟨shallow, hshallow, rfl⟩ := List.mem_map.mp hpiece
  rw [text_deepen]
  exact h shallow hshallow

lemma EndLines.within {first last : Piece} (hfirst : EndsLine first.text) (h : EndLines p)
    (hlast : EndsLine last.text) : EndLines (first :: Layout.deepen p ++ [last]) :=
  endLines_append.mpr ⟨List.forall_mem_cons.mpr ⟨hfirst, h.deepen⟩, endLines_singleton.mpr hlast⟩

lemma endsLine_render {piece : Piece} (h : EndsLine piece.text) : EndsLine (piece.render base step) := by
  cases piece with
  | flush text => exact h
  | line depth text => exact h.append

lemma EndLines.wholeLines_render (h : EndLines p) : WholeLines (render base step p) := by
  rcases List.eq_nil_or_concat p with rfl | ⟨front, last, rfl⟩
  · exact .inl rfl
  · rw [List.concat_eq_append] at h ⊢
    have hlast := endLines_singleton.mp (endLines_append.mp h).2
    rw [render_append, render_cons, render_nil, String.append_empty]
    exact .inr (endsLine_render hlast).append

lemma endLines_command (slides? : Option Slides) : EndLines (command slides? name a) := by
  have hend (text : String) : EndsLine (text ++ "\n") := EndsLine.append (by decide)
  cases slides? with
  | none => exact endLines_singleton.mpr (hend _)
  | some n =>
    have hopen : EndsLine (n.command ++ "\x7b\n") := EndsLine.append (by decide)
    exact List.forall_mem_cons.mpr ⟨hopen, List.forall_mem_cons.mpr ⟨hend _, endLines_singleton.mpr (hend _)⟩⟩

lemma endLines_containingCommand (h : EndLines body) : EndLines (containingCommand name a body) := by
  have hopen (text : String) : EndsLine (text ++ "\x7b\n") := EndsLine.append (by decide)
  have hlines : EndLines (.line 0 ("\\" ++ name ++ bracketed a.options ++ "\x7b\n") ::
      Layout.deepen body ++ [.flush "\x7d\n"]) := h.within (hopen _) (show EndsLine "\x7d\n" by decide)
  rw [containingCommand, List.append_assoc]
  cases a.comment? with
  | none => exact hlines
  | some comment =>
    have hcomment : EndsLine (" % " ++ comment ++ "\n") := EndsLine.append (by decide)
    exact List.forall_mem_cons.mpr ⟨hcomment, hlines⟩

lemma endLines_plainEnvironment (options : List String) (h : EndLines body) :
    EndLines (plainEnvironment name options a body) := by
  have hend (text : String) : EndsLine (text ++ "\n") := EndsLine.append (by decide)
  exact h.within (hend _) (hend _)

lemma endLines_environment (slides? : Option Slides) (options : List String) (h : EndLines body) :
    EndLines (environment slides? name options a body) := by
  have hplain : EndLines (plainEnvironment name options a body) := endLines_plainEnvironment options h
  cases slides? with
  | none => exact hplain
  | some n =>
    have hopen : EndsLine (n.command ++ "\x7b\n") := EndsLine.append (by decide)
    exact hplain.within hopen (show EndsLine "\x7d\n" by decide)

lemma EndLines.node {n : Node} (holdsCode : Bool) (hleaf : ∀ text ∈ n.content.leaf?, EndsLine text)
    (hbody : EndLines body) : EndLines (node n holdsCode body) := by
  obtain ⟨content, foreign?, parent?, slides?, children, odd⟩ := n
  have hend (text : String) : EndsLine (text ++ "\n") := EndsLine.append (by decide)
  have hopen (text : String) : EndsLine (text ++ "]\x7b\n") := EndsLine.append (by decide)
  cases content with
  | raw text => exact endLines_singleton.mpr (hleaf text rfl)
  | text source => exact endLines_singleton.mpr (endsLine_translate (hleaf source rfl))
  | command name a | package name a => exact endLines_command slides?
  | containingCommand name a => exact endLines_containingCommand hbody
  | newCommand name arity => exact hbody.within (hopen _) (show EndsLine "\x7d\n" by decide)
  | environment form name a => exact endLines_environment slides? _ hbody
  | block title | code title language listing =>
    exact hbody.within (hend _) (show EndsLine "\\end\x7bblock\x7d\n" by decide)
  | header => exact hbody

end Layout

namespace Forest

variable {f : Forest}

lemma breaks_pieces {count : NodeId → ℕ} (h : ∀ t ∈ f, Layout.breaks t.pieces = (t.ids.map count).sum) :
    Layout.breaks (Forest.pieces f) = ((Forest.ids f).map count).sum := by
  induction f with
  | nil => rfl
  | cons t rest ih =>
    rw [List.forall_mem_cons] at h
    rw [Forest.pieces, Forest.ids, Layout.breaks_append, List.map_append, List.sum_append, h.1, ih h.2]

lemma endLines_pieces (h : ∀ t ∈ f, Layout.EndLines t.pieces) : Layout.EndLines (Forest.pieces f) := by
  induction f with
  | nil => exact List.forall_mem_nil _
  | cons t rest ih =>
    rw [List.forall_mem_cons] at h
    exact Layout.endLines_append.mpr ⟨h.1, ih h.2⟩

end Forest

namespace Tree.Matches

variable {s : Store} {t : Tree}

lemma breaks_pieces (hs : s.WellFormed) (ht : t.Matches s)
    (hlabels : ∀ m ∈ t.ids, ∀ label ∈ (s.node m).content.labels, lineBreaks label = 0) :
    Layout.breaks t.pieces = (t.ids.map fun m => (s.node m).breaks).sum := by
  induction ht with
  | node n children hids h ih =>
    rw [Tree.ids, List.forall_mem_cons] at hlabels
    have hbelow : Layout.breaks (Forest.pieces children) = _ := Forest.breaks_pieces fun t ht =>
      ih t ht fun m hm => hlabels.2 m (Forest.mem_ids.mpr ⟨t, ht, hm⟩)
    have hleaf : (s.node n).kind.isContainer = false → Forest.pieces children = [] := by
      intro hkind
      rw [hs.children_eq_nil n hkind, List.map_eq_nil_iff] at hids
      rw [hids, Forest.pieces]
    rw [Tree.pieces, Layout.breaks_node _ hlabels.1 hleaf, hbelow, Tree.ids, List.map_cons, List.sum_cons]

lemma endLines_pieces (ht : t.Matches s)
    (hleaves : ∀ m ∈ t.ids, ∀ text ∈ (s.node m).content.leaf?, EndsLine text) :
    Layout.EndLines t.pieces := by
  induction ht with
  | node n children hids h ih =>
    rw [Tree.ids, List.forall_mem_cons] at hleaves
    exact .node _ hleaves.1 (Forest.endLines_pieces fun t ht =>
      ih t ht fun m hm => hleaves.2 m (Forest.mem_ids.mpr ⟨t, ht, hm⟩))

end Tree.Matches

namespace Store

/-- No line break is in what is given to a node, or to one below it, to be written within a line. -/
def UnbrokenLabels (s : Store) (n : NodeId) : Prop :=
  ∀ m, s.Climbs m n → ∀ label ∈ (s.node m).content.labels, '\n' ∉ label.toList

/-- Every text that is a node of its own, at or below a node, ends with a line break. -/
def WholeLeaves (s : Store) (n : NodeId) : Prop :=
  ∀ m, s.Climbs m n → ∀ text ∈ (s.node m).content.leaf?, EndsLine text

variable {s : Store} {n m : NodeId} {t : Tree} {step before shown after : String}

lemma lineBreaks_render (hs : s.WellFormed) (ht : s.tree? n = some t) (hlabels : s.UnbrokenLabels n)
    (hstep : '\n' ∉ step.toList) :
    lineBreaks (t.render step) = (t.ids.map fun m => (s.node m).breaks).sum := by
  obtain ⟨rfl, hmatches⟩ := matches_of_tree? ht
  rw [Tree.render, Layout.breaks_render rfl (lineBreaks_eq_zero.mpr hstep)]
  exact hmatches.breaks_pieces hs fun m hm label hlabel =>
    lineBreaks_eq_zero.mpr (hlabels m ((hmatches.mem_ids_iff hs).mp hm) label hlabel)

lemma endLines_pieces (hs : s.WellFormed) (ht : s.tree? n = some t) (hleaves : s.WholeLeaves n) :
    Layout.EndLines t.pieces := by
  obtain ⟨rfl, hmatches⟩ := matches_of_tree? ht
  exact hmatches.endLines_pieces fun m hm => hleaves m ((hmatches.mem_ids_iff hs).mp hm)

lemma Shows.wholeLines (hs : s.WellFormed) (hleaves : s.WholeLeaves n)
    (h : s.Shows step n m before shown after) : WholeLines before := by
  obtain ⟨t, u, x, ht, -, hfills, rfl, -, -⟩ := h
  -- what comes before the node are pieces of the whole tree
  have hpieces := endLines_pieces hs ht hleaves
  rw [hfills.pieces_eq, Cut.fill, List.append_assoc, Layout.endLines_append] at hpieces
  exact hpieces.1.wholeLines_render

lemma Shows.render_eq (ht : s.tree? n = some t) (h : s.Shows step n m before shown after) :
    t.render step = before ++ shown ++ after := by
  obtain ⟨t', u, x, ht', -, hfills, rfl, rfl, rfl⟩ := h
  obtain rfl := Option.some.inj (ht.symm.trans ht')
  exact hfills.render_eq step

end Store

end SlideDeck
