import SlideDeck.Deck
import SlideDeck.Proofs.Pieces

/-! What writing comes to, without the desk: the pieces of a node and of all below it, or what stops the walk. -/

namespace SlideDeck

namespace Kind

def deepens : Kind → Bool
  | containingCommand | newCommand | environment | itemize | frame | block | code => true
  | raw | text | command | package | header => false

def honorsSlides : Kind → Bool
  | command | package | environment | itemize | frame | block | code => true
  | raw | text | containingCommand | newCommand | header => false

end Kind

namespace Node

/-- Some argument, or the qualifier by slides, or the step of indentation is needed as a text and is none. -/
def halts (hasStep : Bool) (n : Node) : Bool :=
  (n.kind.hasArguments && n.foreign?.isSome) || (n.kind.honorsSlides && n.slides?.any Slides.isText) ||
    (n.kind.deepens && !hasStep)

def halt? (hasStep : Bool) (n : Node) : Option Obstacle :=
  if n.halts hasStep then some .foreign
  else if n.kind = .text then (n.odd.lookup "text").map fun value => .untranslatable value.typeName
  else none

/-- A raw text that is no text is noticed when all is written. -/
def failsLate (n : Node) : Bool := n.kind == .raw && (n.odd.lookup "text").isSome

def isWritable (hasStep : Bool) (n : Node) : Bool := (n.halt? hasStep).isNone && !n.failsLate

def seeksCode (n : Node) : Bool :=
  match n.content with
  | .environment .frame _ a => fragile ∉ a.options
  | _ => false

end Node

def Forest.isWritable (hasStep : Bool) (f : Forest) : Bool := (Forest.nodes f).all (·.isWritable hasStep)

namespace Tree

def isWritable (hasStep : Bool) (t : Tree) : Bool := t.nodes.all (·.isWritable hasStep)

def halt? (hasStep : Bool) (t : Tree) : Option Obstacle := t.nodes.findSome? (·.halt? hasStep)

def write (step? : Option String) (t : Tree) : Except Obstacle String :=
  if t.isWritable step?.isSome then .ok (t.render (step?.getD ""))
  else .error ((t.halt? step?.isSome).getD .foreign)

end Tree

namespace Layout

def gather (sketch : NodeId → Except Obstacle (Option (List Piece))) :
    List NodeId → Except Obstacle (Option (List Piece))
  | [] => .ok (some [])
  | n :: rest => do
    let first? ← sketch n
    let rest? ← gather sketch rest
    return first?.bind fun first => rest?.map (first ++ ·)

end Layout

namespace Store

def codeBelow (s : Store) (n : NodeId) : Except Obstacle Bool :=
  if (s.node n).seeksCode then
    match s.has? .code n with
    | some found => .ok found
    | none => .error .unending
  else .ok false

def sketchAround (s : Store) (hasStep : Bool) (n : NodeId) (below : Except Obstacle (Option (List Piece))) :
    Except Obstacle (Option (List Piece)) :=
  let root := s.node n
  (s.codeBelow n).bind fun holdsCode =>
    match root.halt? hasStep with
    | some cause => .error cause
    | none =>
      if root.kind.isContainer then below.map (·.map (Layout.node root holdsCode))
      else .ok (if root.failsLate then none else some (Layout.node root holdsCode []))

def sketch (s : Store) (hasStep : Bool) : (depth : Nat) → NodeId → Except Obstacle (Option (List Piece))
  | 0, _ => .error .unending
  | depth + 1, n => s.sketchAround hasStep n (Layout.gather (s.sketch hasStep depth) (s.children n))

def rendering (s : Store) (step? : Option String) (n : NodeId) : Rendering where
  records := [Renderer.record (s.kind n)]
  outcome := (s.sketch step?.isSome (s.size + 1) n).bind fun
    | some pieces => .ok (Layout.render "" (step?.getD "") pieces)
    | none => .error .foreign

end Store

namespace Rendering

def ofText (text : String) : Rendering where
  records := []
  outcome := .ok text

def followedBy (first second : Rendering) : Rendering :=
  match first.outcome with
  | .error _ => first
  | .ok text => { records := first.records ++ second.records, outcome := second.outcome.map (text ++ ·) }

end Rendering

namespace Deck

def codeHeader (comment? : Option String) : Tree :=
  let package : Content := .package "usepackage" { required := [listingName], comment? }
  .node 0 { content := .header } [.node 1 { content := package } []]

def codeRendering (d : Deck) (s : Store) (settings : LooseSettings) : Rendering :=
  match s.has? .code d.document with
  | none => { records := [], outcome := .error .unending }
  | some false => .ofText ""
  | some true => {
      records := [codeRecord, Renderer.record .header]
      outcome := .ok ((codeHeader settings.comment?).render (settings.step?.getD "")) }

def rendering (d : Deck) (s : Store) (settings : LooseSettings) : Rendering :=
  let write (n : NodeId) := s.rendering settings.step? n
  (write d.preamble).followedBy <| (d.codeRendering s settings).followedBy <|
    (write d.header).followedBy <| (Rendering.ofText "\n").followedBy <| write d.document

end Deck

end SlideDeck
