import SlideDeck.Proofs.Layout

/-! Indentation as prefixes of chunks of text. Which chunks are written of a tree, and how deep, does not depend
on the indentation. -/

namespace SlideDeck

def indented (step : String) (chunks : List (Nat × String)) : String :=
  String.join (chunks.map fun (depth, chunk) => String.join (List.replicate depth step) ++ chunk)

def Piece.chunk : Piece → Nat × String
  | flush text => (0, text)
  | line depth text => (depth, text)

mutual

def Tree.leafChunks (depth : Nat) : Tree → List (Nat × String)
  | .node _ root children =>
    match root.content with
    | .raw text => [(0, text)]
    | .text source => [(depth, translate source)]
    | .command _ _ | .package _ _ => []
    | .containingCommand _ _ | .newCommand _ _ | .environment _ _ _ | .block _ | .code _ _ _ | .header =>
      Forest.leafChunks (depth + Layout.levels root) children

def Forest.leafChunks (depth : Nat) : Forest → List (Nat × String)
  | [] => []
  | tree :: rest => tree.leafChunks depth ++ Forest.leafChunks depth rest

end

namespace Layout

lemma render_eq_indented (step : String) (pieces : List Piece) :
    render "" step pieces = indented step (pieces.map Piece.chunk) := by
  rw [render, indented, List.map_map]
  congr 1
  refine List.map_congr_left fun p _ => ?_
  cases p <;> simp [Piece.render, Piece.chunk]

def chunksAt (depth : Nat) (pieces : List Piece) : List (Nat × String) :=
  (deepenBy depth pieces).map Piece.chunk

lemma chunksAt_append (depth : Nat) (xs ys : List Piece) :
    chunksAt depth (xs ++ ys) = chunksAt depth xs ++ chunksAt depth ys := by
  rw [chunksAt, deepenBy_append, List.map_append, chunksAt, chunksAt]

lemma chunksAt_node {n : Node} (hn : n.kind.isContainer = true) (holdsCode : Bool) (depth : Nat)
    (body : List Piece) :
    (chunksAt (depth + levels n) body).Sublist (chunksAt depth (node n holdsCode body)) := by
  rw [node_eq hn, chunksAt_append, chunksAt_append, chunksAt, chunksAt, chunksAt, chunksAt, deepenBy_deepenBy,
    Nat.add_comm]
  exact (List.sublist_append_right _ _).trans (List.sublist_append_left _ _)

end Layout

open Layout

mutual

theorem Tree.leafChunks_sublist (depth : Nat) :
    ∀ t : Tree, (t.leafChunks depth).Sublist (chunksAt depth t.pieces)
  | .node id root children => by
    have hchildren := Forest.leafChunks_sublist (depth + levels root) children
    have hwithin (hn : root.kind.isContainer = true) :
        (Forest.leafChunks (depth + levels root) children).Sublist
          (chunksAt depth (Tree.pieces (.node id root children))) :=
      hchildren.trans (chunksAt_node hn _ _ _)
    rw [Tree.leafChunks]
    cases hcontent : root.content with
    | raw text =>
      rw [Tree.pieces, node, hcontent]
      exact .refl _
    | text source =>
      rw [Tree.pieces, node, hcontent]
      simp [chunksAt, deepenBy, Piece.deepenBy, Piece.chunk]
    | command | package => exact List.nil_sublist _
    | environment form name a => exact hwithin (by rw [Node.kind, hcontent]; cases form <;> rfl)
    | containingCommand | newCommand | block | code | header => exact hwithin (by rw [Node.kind, hcontent]; rfl)

theorem Forest.leafChunks_sublist (depth : Nat) :
    ∀ f : Forest, (Forest.leafChunks depth f).Sublist (chunksAt depth (Forest.pieces f))
  | [] => List.Sublist.slnil
  | tree :: rest => by
    rw [Forest.leafChunks, Forest.pieces, chunksAt_append]
    exact (tree.leafChunks_sublist depth).append (Forest.leafChunks_sublist depth rest)

end

end SlideDeck
