import SlideDeck.Proofs.Cut

/-! Where the pieces of a subtree stand among those of the whole tree. -/

namespace SlideDeck

/-- The tree is `t` itself or lies below its root, and what is written of it fills the cut `x` of what is
written of `t`. -/
inductive Tree.Fills (u : Tree) : Cut → Tree → Prop
  | whole : Fills u { before := [], depth := 0, after := [] } u
  | within {x : Cut} {t : Tree} (id : NodeId) {root : Node} (left right : Forest)
      (hroot : root.kind.isContainer = true) (h : Fills u x t) :
      Fills u ((x.beside (Forest.pieces left) (Forest.pieces right)).within root
        (Forest.holds .code (left ++ t :: right))) (.node id root (left ++ t :: right))

variable {x : Cut} {t u : Tree}

lemma Forest.pieces_append_cons (left right : Forest) (t : Tree) :
    Forest.pieces (left ++ t :: right) = Forest.pieces left ++ t.pieces ++ Forest.pieces right := by
  simp [Forest.pieces_eq]

lemma Tree.Fills.pieces_eq (h : u.Fills x t) : t.pieces = x.fill u.pieces := by
  induction h with
  | whole => simp [Cut.fill, Layout.deepenBy_zero]
  | within id left right hroot h ih =>
    rw [Cut.fill_within hroot, Cut.fill_beside, ← ih, Tree.pieces, Forest.pieces_append_cons]

def Cut.indent (x : Cut) (step : String) : String := String.join (List.replicate x.depth step)

lemma Tree.Fills.render_eq (h : u.Fills x t) (step : String) : t.render step =
    Layout.render "" step x.before ++ Layout.render (x.indent step) step u.pieces ++
      Layout.render "" step x.after := by
  rw [Tree.render, h.pieces_eq, Cut.fill, Layout.render_append, Layout.render_append,
    Layout.render_deepenBy, String.empty_append, Cut.indent]

namespace Layout

def beginLine (name : String) (options : List String) (a : Arguments) : String :=
  "\\begin" ++ braced name ++ bracketed options ++
    (if a.required = [] then "" else braced (", ".intercalate a.required)) ++ trailing a.comment? ++ "\n"

def overlayLine (slides? : Option Slides) : List Piece :=
  (slides?.map fun n => Piece.line 0 (n.command ++ "\x7b\n")).toList

lemma environment_eq (slides? : Option Slides) (name : String) (options : List String) (a : Arguments)
    (body : List Piece) : ∃ rest, environment slides? name options a body =
      overlayLine slides? ++ .line (overlayLine slides?).length (beginLine name options a) :: rest := by
  cases slides? with
  | none => exact ⟨_, rfl⟩
  | some n => exact ⟨_, rfl⟩

end Layout

open Layout in
lemma Tree.pieces_frame {name : String} {a : Arguments}
    (h : t.root.content = .environment .frame name a) : ∃ rest, t.pieces =
      overlayLine t.root.slides? ++ .line (overlayLine t.root.slides?).length
        (beginLine name (environmentOptions .frame a.options (t.holds .code)) a) :: rest := by
  cases t with
  | node id root children =>
    have hroot : root.content = .environment .frame name a := h
    rw [Tree.pieces, Layout.node, hroot]
    exact environment_eq _ _ _ _ _

end SlideDeck
