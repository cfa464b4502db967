import SlideDeck.Proofs.Overlay
import SlideDeck.Proofs.Tree

/-! The pieces of a container around those of its children, and texts cut at a place between two pieces. -/

namespace SlideDeck

def Arguments.texts (a : Arguments) : List String := a.required ++ a.options ++ a.comment?.toList

def Content.texts : Content → List String
  | .raw given | .text given | .block given | .code given _ _ => [given]
  | .newCommand name arity => name :: arity.texts
  | .command name a | .package name a | .containingCommand name a | .environment _ name a =>
    name :: a.texts
  | .header => []

lemma Content.exists_plain {c : Content} (h : c.kind = .environment) : ∃ name a, c = .environment .plain name a := by
  cases c with
  | environment form name a =>
    cases form with
    | plain => exact ⟨name, a, rfl⟩
    | itemize | frame => cases h
  | _ => cases h

lemma Content.eq_header {c : Content} (h : c.kind = .header) : c = .header := by
  cases c with
  | header => rfl
  | environment form name a => cases form <;> cases h
  | _ => cases h

namespace Piece

def deepenBy (k : Nat) : Piece → Piece
  | flush text => .flush text
  | line depth text => .line (depth + k) text

lemma deepen_eq (p : Piece) : p.deepen = p.deepenBy 1 := by
  cases p <;> rfl

lemma deepenBy_deepenBy (j k : Nat) (p : Piece) : (p.deepenBy j).deepenBy k = p.deepenBy (j + k) := by
  cases p with
  | flush text => rfl
  | line depth text => rw [deepenBy, deepenBy, deepenBy, Nat.add_assoc]

lemma deepenBy_zero (p : Piece) : p.deepenBy 0 = p := by
  cases p <;> rfl

lemma render_deepenBy (base step : String) (k : Nat) (p : Piece) :
    (p.deepenBy k).render base step =
      p.render (base ++ String.join (List.replicate k step)) step := by
  cases p with
  | flush text => rfl
  | line depth text =>
    simp only [deepenBy, render, Nat.add_comm depth k, List.replicate_add, String.join_append,
      String.append_assoc]

lemma render_flush (base step text : String) : (flush text).render base step = text := rfl

lemma render_line_zero (base step text : String) : (line 0 text).render base step = base ++ text := by
  simp [render]

end Piece

namespace Layout

def deepenBy (k : Nat) (pieces : List Piece) : List Piece := pieces.map (Piece.deepenBy k)

lemma deepen_eq (pieces : List Piece) : deepen pieces = deepenBy 1 pieces :=
  List.map_congr_left fun p _ => p.deepen_eq

lemma deepenBy_append (k : Nat) (xs ys : List Piece) :
    deepenBy k (xs ++ ys) = deepenBy k xs ++ deepenBy k ys := List.map_append

lemma deepenBy_deepenBy (j k : Nat) (xs : List Piece) :
    deepenBy k (deepenBy j xs) = deepenBy (j + k) xs := by
  simp [deepenBy, Function.comp_def, Piece.deepenBy_deepenBy]

lemma deepenBy_zero (xs : List Piece) : deepenBy 0 xs = xs := by
  rw [deepenBy, List.map_congr_left fun p _ => p.deepenBy_zero, List.map_id']

lemma render_nil (base step : String) : render base step [] = "" := rfl

lemma render_cons (base step : String) (p : Piece) (pieces : List Piece) :
    render base step (p :: pieces) = p.render base step ++ render base step pieces := by
  rw [render, List.map_cons, String.join_cons, render]

lemma render_append (base step : String) (xs ys : List Piece) :
    render base step (xs ++ ys) = render base step xs ++ render base step ys := by
  rw [render, List.map_append, String.join_append, render, render]

lemma render_deepenBy (base step : String) (k : Nat) (xs : List Piece) :
    render base step (deepenBy k xs) =
      render (base ++ String.join (List.replicate k step)) step xs := by
  simp [render, deepenBy, Function.comp_def, Piece.render_deepenBy]

lemma render_deepen (base step : String) (pieces : List Piece) :
    render base step (deepen pieces) = render (base ++ step) step pieces := by
  simp [deepen_eq, render_deepenBy]

lemma render_environment_some (base step name : String) (slides : Slides) (options : List String) (a : Arguments)
    (body : List Piece) : render base step (environment (some slides) name options a body) =
      base ++ slides.command ++ "\x7b\n" ++ render (base ++ step) step (plainEnvironment name options a body) ++ base ++
        "\x7d\n" := by
  rw [environment, render_append, render_cons, render_deepen, render_cons, render_nil, Piece.render_line_zero,
    Piece.render_line_zero]
  simp only [String.append_assoc, String.append_empty]

section Everywhere

variable {fits P Q R : String → Prop} {step text : String} {p q : List Piece}

def Everywhere (fits : String → Prop) (step : String) (P : String → Prop) (pieces : List Piece) : Prop :=
  ∀ base, fits base → P (render base step pieces)

lemma Everywhere.append (hp : Everywhere fits step P p) (hq : Everywhere fits step Q q)
    (hjoin : ∀ a b, P a → Q b → R (a ++ b)) : Everywhere fits step R (p ++ q) := by
  intro base hbase
  rw [render_append]
  exact hjoin _ _ (hp base hbase) (hq base hbase)

lemma everywhere_nil (h : P "") : Everywhere fits step P [] := fun _ _ => h

lemma everywhere_flush (h : P text) : Everywhere fits step P [.flush text] := by
  intro base _
  rwa [render_cons, render_nil, Piece.render_flush, String.append_empty]

lemma everywhere_line (h : ∀ base, fits base → P (base ++ text)) :
    Everywhere fits step P [.line 0 text] := by
  intro base hbase
  rw [render_cons, render_nil, Piece.render_line_zero, String.append_empty]
  exact h base hbase

lemma Everywhere.deepen (h : Everywhere fits step P p) (hdeeper : ∀ base, fits base → fits (base ++ step)) :
    Everywhere fits step P (deepen p) := by
  intro base hbase
  rw [render_deepen]
  exact h _ (hdeeper base hbase)

end Everywhere

lemma forall_mem_environmentOptions {P : String → Prop} {form : Form} {options : List String}
    {holdsCode : Bool} (hfragile : P fragile) (h : ∀ option ∈ options, P option) :
    ∀ option ∈ environmentOptions form options holdsCode, P option := by
  rw [environmentOptions]
  split_ifs
  · rw [List.forall_mem_append]
    exact ⟨h, by simpa using hfragile⟩
  · exact h

/-- The steps by which a container indents its children. For each of them it ends with one piece. -/
def levels (n : Node) : Nat :=
  match n.content, n.slides? with
  | .header, _ => 0
  | .environment _ _ _, some _ => 2
  | _, _ => 1

def opening (n : Node) (holdsCode : Bool) : List Piece :=
  (node n holdsCode []).take ((node n holdsCode []).length - levels n)

def closing (n : Node) (holdsCode : Bool) : List Piece :=
  (node n holdsCode []).drop ((node n holdsCode []).length - levels n)

lemma node_eq {n : Node} (hn : n.kind.isContainer = true) (holdsCode : Bool) (body : List Piece) :
    node n holdsCode body =
      opening n holdsCode ++ deepenBy (levels n) body ++ closing n holdsCode := by
  obtain ⟨content, foreign?, parent?, slides?, children, odd⟩ := n
  cases content with
  | raw | text | command | package => simp [Node.kind, Content.kind, Kind.isContainer] at hn
  | header => simp [opening, closing, levels, node, deepenBy_zero]
  | containingCommand name a =>
    cases ha : a.comment? <;>
      simp [opening, closing, levels, node, containingCommand, deepen_eq, ha, deepenBy]
  | newCommand name arity => simp [opening, closing, levels, node, newCommand, deepen_eq, deepenBy]
  | block title => simp [opening, closing, levels, node, block, deepen_eq, deepenBy]
  | code title language listing => simp [opening, closing, levels, node, block, deepen_eq, deepenBy]
  | environment form name a =>
    cases slides? with
    | none =>
      simp [opening, closing, levels, node, environment, plainEnvironment, deepen_eq, deepenBy]
    | some k =>
      simp [opening, closing, levels, node, environment, plainEnvironment, deepen_eq, deepenBy,
        Piece.deepen_eq, Piece.deepenBy_deepenBy]

end Layout

end SlideDeck
