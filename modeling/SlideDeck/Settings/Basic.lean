import SlideDeck.Text.Quoted

namespace SlideDeck

structure PackageLine where
  name : CodeText
  options : List CodeText := []
  comment? : Option CodeText := none
  deriving Repr, DecidableEq

def PackageLine.defaults : List PackageLine :=
  [{ name := "nag", options := [↑"l2tabu", ↑"orthodox"],
     comment? := some ↑"complain about obsolete LaTeX usage" },
    { name := "microtype", comment? := some ↑"enable post-pdfTeX typographic improvements" }]

def standardIndent : String := "  "

def standardCodeComment : String := "to include source code"

structure Settings where
  documentClass : CodeText := "beamer"
  classOptions : List CodeText := []
  indent : CodeText := standardIndent
  packages : List PackageLine := PackageLine.defaults
  codeComment? : Option CodeText := some ↑standardCodeComment
  deriving Repr, DecidableEq

namespace PackageLine

def describe (p : PackageLine) : String :=
  "PackageConfig(name=" ++ Text.quote p.name ++ ", options=" ++ Text.quoteList p.options ++
    ", comment=" ++ Text.quote? p.comment? ++ ")"

end PackageLine

end SlideDeck
