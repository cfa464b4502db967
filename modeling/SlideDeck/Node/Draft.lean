import SlideDeck.Node.Basic
import SlideDeck.Overlay

namespace SlideDeck

def listingName : String := "minted"

inductive Draft where
  | raw (text : String)
  | text (source : String)
  | command (name : String) (arguments : Arguments)
  | package (name : String) (options : List String) (comment? : Option String)
  | containingCommand (name : String)
  | newCommand (name : String) (arity : Int)
  | environment (name : String) (required : List String)
  | itemize
  | frame (title? : Option String)
  | block (title : String)
  | code (language : String) (title? : Option String)
  | header
  deriving Repr, DecidableEq

namespace Draft

/-- The content of the node, whose listing will be at `listing` if it shows code. The title of a frame is
its only argument; code without a title has its language as title. -/
def content (listing : NodeId) : Draft → Content
  | raw body => .raw body
  | text source => .text source
  | command name arguments => .command name arguments
  | package name options comment? => .package "usepackage" { required := [name], options, comment? }
  | containingCommand name => .containingCommand name {}
  | newCommand name arity => .newCommand name (.int arity)
  | environment name required => .environment .plain name { required }
  | itemize => .environment .itemize "itemize" {}
  | frame title? => .environment .frame "frame" { required := title?.toList }
  | block title => .block title
  | code language title? => .code (title?.getD language) language listing
  | header => .header

def listing? : Draft → Option Content
  | code language _ => some (.environment .plain listingName { required := [language] })
  | _ => none

/-- A running text for a container. In a list of items each text becomes an item of its own, and elsewhere
a slide number makes it the argument of an overlay command. -/
def textIn (container : Kind) (body : String) (slide? : Option Int) : Draft :=
  match container, slide? with
  | .itemize, none => .text ("\\item " ++ body ++ "\n")
  | .itemize, some n => .text ("\\item" ++ Overlay.range n ++ " " ++ body ++ "\n")
  | _, none => .text (body ++ "\n")
  | _, some n => .text (Overlay.command n ++ "\x7b" ++ body ++ "\x7d\n")

def comment (body : String) : Draft := .raw ("%" ++ body ++ "\n")

def blankline : Draft := .raw "\n"

end Draft

end SlideDeck
