import SlideDeck.Proofs.Subtree

/-! What a qualifier by slides changes in the text of a node. -/

namespace SlideDeck

namespace Layout

def overlaid (n : Int) (base inner tail : String) : String :=
  base ++ Overlay.command n ++ "\x7b\n" ++ inner ++ base ++ "\x7d" ++ tail ++ "\n"

end Layout

open Layout (overlaid commandText)

/-- How the text of a node with some content comes to be qualified, given what is written of it after each
indentation without the qualifier and with it. The comment of a command moves behind the overlay command. -/
def Content.Qualifies (content : Content) (n : Int) (step : String) (plain qualified : String → String) : Prop :=
  match content with
  | .environment _ _ _ => ∀ base, qualified base = overlaid n base (plain (base ++ step)) ""
  | .command name a | .package name a => ∀ base,
    plain base = base ++ commandText name a ++ trailing a.comment? ++ "\n" ∧
      qualified base = overlaid n base (base ++ step ++ commandText name a ++ "\n") (trailing a.comment?) ∧
      (a.comment? = none → qualified base = overlaid n base (plain (base ++ step)) "")
  | .block _ | .code _ _ _ => ∀ base, ∃ rest, plain base = base ++ "\\begin\x7bblock\x7d" ++ rest ∧
    qualified base = base ++ "\\begin\x7bblock\x7d" ++ Overlay.range n ++ rest
  | .raw _ | .text _ | .containingCommand _ _ | .newCommand _ _ | .header => ∀ base, qualified base = plain base

def Tree.qualify (slides? : Option Int) : Tree → Tree
  | .node id root children => .node id { root with slides? := slides?.map .int } children

namespace Layout

variable (n : Int) (step base : String)

lemma render_environment (name : String) (options : List String) (a : Arguments) (body : List Piece) :
    render base step (environment (some (.int n)) name options a body) =
      overlaid n base (render (base ++ step) step (environment none name options a body)) "" := by
  simp only [environment, overlaid, render_cons, render_append, render_deepen, Piece.render_line_zero, render_nil,
    String.append_empty, String.append_assoc]
  rfl

lemma render_command (name : String) (a : Arguments) :
    render base step (command none name a) = base ++ commandText name a ++ trailing a.comment? ++ "\n" := by
  rw [command, render_cons, render_nil, Piece.render_line_zero, String.append_empty]
  simp only [String.append_assoc]

lemma render_command_qualified (name : String) (a : Arguments) :
    render base step (command (some (.int n)) name a) =
      overlaid n base (base ++ step ++ commandText name a ++ "\n") (trailing a.comment?) := by
  simp [command, overlaid, Slides.command, render_cons, render_nil, Piece.render, String.append_assoc]

lemma render_block (title : String) (body : List Piece) : ∃ rest, ∀ slides?,
    render base step (block slides? title body) =
      base ++ "\\begin\x7bblock\x7d" ++ (slides?.map Slides.range).getD "" ++ rest := by
  refine ⟨braced title ++ "\n" ++ render (base ++ step) step body ++ base ++ "\\end\x7bblock\x7d\n",
    fun slides? => ?_⟩
  simp only [block, render_cons, render_append, render_deepen, Piece.render_line_zero, render_nil,
    String.append_empty, String.append_assoc]

end Layout

lemma Tree.qualifies (n : Int) (step : String) (t : Tree) : t.root.content.Qualifies n step
    (fun base => Layout.render base step (t.qualify none).pieces)
    (fun base => Layout.render base step (t.qualify (some n)).pieces) := by
  obtain ⟨id, ⟨content, foreign?, parent?, slides?, ids, odd⟩, children⟩ := t
  cases content with
  | environment form name a => exact fun base => Layout.render_environment n step base name _ a _
  | command name a | package name a =>
    intro base
    refine ⟨Layout.render_command step base name a, Layout.render_command_qualified n step base name a, ?_⟩
    intro hcomment
    have hplain := Layout.render_command step (base ++ step) name a
    have hqualified := Layout.render_command_qualified n step base name a
    rw [hcomment, trailing, String.append_empty] at hplain
    rw [← hplain, hcomment] at hqualified
    exact hqualified
  | block title | code title language listing =>
    intro base
    obtain ⟨rest, hrest⟩ := Layout.render_block step base title (Forest.pieces children)
    have hplain := hrest none
    rw [Option.map_none, Option.getD_none, String.append_empty] at hplain
    exact ⟨rest, hplain, hrest (some (.int n))⟩
  | raw | text | containingCommand | newCommand | header => exact fun base => rfl

end SlideDeck
