import SlideDeck.Datum.Basic
import SlideDeck.Node.Atom

namespace SlideDeck

/-- The arguments of a node, and the comment behind it as it is written. If the comment was set to a value that is
no text, that is kept beside it. -/
structure Arguments where
  required : List String := []
  options : List String := []
  comment? : Option String := none
  oddComment? : Option Atom := none
  deriving Repr, DecidableEq

namespace Arguments

def addOption (a : Arguments) (option : String) : Arguments :=
  { a with options := a.options ++ [option] }

def setComment (a : Arguments) (comment? : Option String) : Arguments :=
  { a with comment?, oddComment? := none }

def assignComment (a : Arguments) : Atom → Arguments
  | .null => a.setComment none
  | .text comment => a.setComment (some comment)
  | value => { a with comment? := some value.shown, oddComment? := some value }

def comment (a : Arguments) : Atom := a.oddComment?.getD (Atom.ofText? a.comment?)

def addRequired (a : Arguments) (argument : String) : Arguments :=
  { a with required := a.required ++ [argument] }

def same (a b : Arguments) : Bool :=
  a.required == b.required && a.options == b.options && a.comment.same b.comment

def describe (a : Arguments) : String :=
  "Arguments(args=" ++ quoteTexts a.required ++ ", opt_args=" ++ quoteTexts a.options ++
    ", comment=" ++ a.comment.write ++ ")"
where
  quoteTexts (texts : List String) : String := Text.quoteList (texts.map CodeText.ofString)

end Arguments

/-- Data that were given as arguments and are no texts. They can be shown but not written. -/
structure ForeignArguments where
  required : List Datum
  options : List Datum
  deriving Repr, DecidableEq

def braced (text : String) : String := "\x7b" ++ text ++ "\x7d"

def trailing : Option String → String
  | none => ""
  | some comment => " % " ++ comment

def bracketed : List String → String
  | [] => ""
  | options => "[" ++ ", ".intercalate options ++ "]"

end SlideDeck
