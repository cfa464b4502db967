import SlideDeck.Renderer

/-! How a tree is written: as a list of pieces that does not depend on the indentation, which is put in
afterwards. -/

namespace SlideDeck

/-- A piece of output. A flush piece is written as it is, a line is indented by some steps. -/
inductive Piece where
  | flush (text : String)
  | line (depth : Nat) (text : String)
  deriving Repr, DecidableEq

namespace Piece

def deepen : Piece → Piece
  | flush text => .flush text
  | line depth text => .line (depth + 1) text

def render (base step : String) : Piece → String
  | flush text => text
  | line depth text => base ++ String.join (List.replicate depth step) ++ text

end Piece

namespace Layout

abbrev deepen (pieces : List Piece) : List Piece := pieces.map Piece.deepen

def render (base step : String) (pieces : List Piece) : String :=
  String.join (pieces.map (·.render base step))

def commandText (name : String) (a : Arguments) : String :=
  "\\" ++ name ++ bracketed a.options ++ String.join (a.required.map braced)

def command (slides? : Option Slides) (name : String) (a : Arguments) : List Piece :=
  match slides? with
  | none => [.line 0 (commandText name a ++ trailing a.comment? ++ "\n")]
  | some n =>
    [.line 0 (n.command ++ "\x7b\n"), .line 1 (commandText name a ++ "\n"),
      .line 0 ("\x7d" ++ trailing a.comment? ++ "\n")]

def containingCommand (name : String) (a : Arguments) (body : List Piece) : List Piece :=
  (a.comment?.map fun comment => Piece.flush (" % " ++ comment ++ "\n")).toList ++
    .line 0 ("\\" ++ name ++ bracketed a.options ++ "\x7b\n") :: deepen body ++ [.flush "\x7d\n"]

def newCommand (name : String) (arity : Atom) (body : List Piece) : List Piece :=
  .line 0 ("\\newcommand\\" ++ name ++ "[" ++ arity.shown ++ "]\x7b\n") :: deepen body ++
    [.flush "\x7d\n"]

def environmentOptions (form : Form) (options : List String) (holdsCode : Bool) : List String :=
  if form = .frame ∧ fragile ∉ options ∧ holdsCode then options ++ [fragile] else options

def plainEnvironment (name : String) (options : List String) (a : Arguments) (body : List Piece) :
    List Piece :=
  .line 0 ("\\begin" ++ braced name ++ bracketed options ++
    (if a.required = [] then "" else braced (", ".intercalate a.required)) ++
    trailing a.comment? ++ "\n") :: deepen body ++ [.line 0 ("\\end" ++ braced name ++ "\n")]

def environment (slides? : Option Slides) (name : String) (options : List String) (a : Arguments)
    (body : List Piece) : List Piece :=
  match slides? with
  | none => plainEnvironment name options a body
  | some n =>
    .line 0 (n.command ++ "\x7b\n") :: deepen (plainEnvironment name options a body) ++
      [.line 0 "\x7d\n"]

def block (slides? : Option Slides) (title : String) (body : List Piece) : List Piece :=
  .line 0 ("\\begin\x7bblock\x7d" ++ (slides?.map Slides.range).getD "" ++ braced title ++ "\n") ::
    deepen body ++ [.line 0 "\\end\x7bblock\x7d\n"]

def node (n : Node) (holdsCode : Bool) (body : List Piece) : List Piece :=
  match n.content with
  | .raw text => [.flush text]
  | .text source => [.line 0 (translate source)]
  | .command name a | .package name a => command n.slides? name a
  | .containingCommand name a => containingCommand name a body
  | .newCommand name arity => newCommand name arity body
  | .environment form name a =>
    environment n.slides? name (environmentOptions form a.options holdsCode) a body
  | .block title | .code title _ _ => block n.slides? title body
  | .header => body

end Layout

mutual

def Tree.pieces : Tree → List Piece
  | .node _ root children =>
    Layout.node root (Forest.holds .code children) (Forest.pieces children)

def Forest.pieces : Forest → List Piece
  | [] => []
  | tree :: rest => tree.pieces ++ Forest.pieces rest

end

def Tree.render (step : String) (t : Tree) : String := Layout.render "" step t.pieces

end SlideDeck
