import SlideDeck.Node.Arguments
import SlideDeck.Node.Kind
import SlideDeck.Node.Slides

namespace SlideDeck

abbrev NodeId := Nat

inductive Form where
  | plain
  | itemize
  | frame
  deriving Repr, DecidableEq

inductive Content where
  | raw (text : String)
  | text (source : String)
  | command (name : String) (arguments : Arguments)
  | package (name : String) (arguments : Arguments)
  | containingCommand (name : String) (arguments : Arguments)
  | newCommand (name : String) (arity : Atom)
  | environment (form : Form) (name : String) (arguments : Arguments)
  | block (title : String)
  | code (title language : String) (listing : NodeId)
  | header
  deriving Repr, DecidableEq

namespace Content

def kind : Content → Kind
  | raw _ => .raw
  | text _ => .text
  | command _ _ => .command
  | package _ _ => .package
  | containingCommand _ _ => .containingCommand
  | newCommand _ _ => .newCommand
  | environment .plain _ _ => .environment
  | environment .itemize _ _ => .itemize
  | environment .frame _ _ => .frame
  | block _ => .block
  | code _ _ _ => .code
  | header => .header

def arguments? : Content → Option Arguments
  | command _ arguments | package _ arguments | containingCommand _ arguments
  | environment _ _ arguments => some arguments
  | raw _ | text _ | newCommand _ _ | block _ | code _ _ _ | header => none

def mapArguments (f : Arguments → Arguments) : Content → Content
  | command name arguments => .command name (f arguments)
  | package name arguments => .package name (f arguments)
  | containingCommand name arguments => .containingCommand name (f arguments)
  | environment form name arguments => .environment form name (f arguments)
  | content => content

theorem isSome_arguments? (c : Content) : c.arguments?.isSome = c.kind.hasArguments := by
  cases c with
  | environment form name arguments => cases form <;> rfl
  | _ => rfl

theorem kind_mapArguments (f : Arguments → Arguments) (c : Content) :
    (c.mapArguments f).kind = c.kind := by
  cases c with
  | environment form name arguments => cases form <;> rfl
  | _ => rfl

end Content

/-- A node knows its parent, and a container its children in order. Foreign arguments stand before those of
the content. A text of the content that was set to an odd value, which is no text, holds what is written of it, and
the value is kept under the name of the attribute. -/
structure Node where
  content : Content
  foreign? : Option ForeignArguments := none
  parent? : Option NodeId := none
  slides? : Option Slides := none
  children : List NodeId := []
  odd : List (String × Atom) := []
  deriving Repr, DecidableEq

namespace Node

def kind (n : Node) : Kind := n.content.kind

def mapContent (n : Node) (f : Content → Content) : Node := { n with content := f n.content }

def mapArguments (n : Node) (f : Arguments → Arguments) : Node := n.mapContent (·.mapArguments f)

def keepOdd (n : Node) (name : String) (value : Atom) : Node :=
  let rest := n.odd.filter (·.1 ≠ name)
  { n with odd := if value.isText then rest else (name, value) :: rest }

end Node

end SlideDeck
