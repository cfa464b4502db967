import SlideDeck.Renderer
import SlideDeck.Settings.Preamble
import SlideDeck.Store.Adoption

/-! A presentation: a preamble fixed by the settings, a header of its own, and the document. -/

namespace SlideDeck

structure Deck where
  outlineTitle : Atom
  settings : Nat
  document : NodeId
  preamble : NodeId
  header : NodeId
  deriving Repr, DecidableEq

namespace Deck

def preambleDrafts (packages : List PackageLine) : List Draft :=
  [.blankline, .comment " = standard packages for 21st-century LaTeX ="] ++
  packages.map (fun p =>
    .package p.name.shown (p.options.map CodeText.shown) (p.comment?.map CodeText.shown)) ++
  [.blankline, .comment " = additional configuration ="]

def addOutline (s : Store) (preamble : NodeId) (title : String) : Store :=
  let (s, hook) := s.createIn preamble (.containingCommand "AtBeginSection") .last
  let (s, slide) := s.createIn hook (.environment "frame" [title]) .last
  (s.createIn slide (.command "tableofcontents" { options := ["currentsection"] }) .last).1

def buildPreamble (s : Store) (plan : Preamble) (outlineTitle? : Option String) : Store × NodeId :=
  let (s, preamble) := s.create .header
  let (s, classLine) := s.createIn preamble (.command "documentclass" plan.classArguments) .last
  let s := s.modify classLine fun node => { node with foreign? := plan.foreign? }
  let s := s.createAllIn preamble (preambleDrafts plan.packages)
  (match outlineTitle? with
    | none => s
    | some title => addOutline s preamble title, preamble)

def build (s : Store) (settings : LooseSettings) (place : Nat) (outlineTitle? : Option String) :
    Except Unusable (Store × Deck) := do
  let plan ← settings.preamble
  let (s, document) := s.create (.environment "document" [])
  let (s, preamble) := buildPreamble s plan outlineTitle?
  let (s, header) := s.create .header
  return (s, { outlineTitle := .ofText? outlineTitle?, settings := place, document, preamble, header })

def addTitle (s : Store) (header : NodeId) (title author : String) (date? subtitle? : Option String) :
    Store :=
  let command (name text : String) : Draft := .command name { required := [text] }
  let s := s.createAllIn header [command "title" title, command "author" author]
  let s := match date? with
    | some date => s.createAllIn header [command "date" date]
    | none =>
      let (s, date) := s.createIn header (.containingCommand "date") .last
      s.createAllIn date [.command "today" {}]
  s.createAllIn header (subtitle?.map (command "subtitle")).toList

def openWith (s : Store) (document : NodeId) (title? : Option String) (command : String)
    (options : List String) : Store :=
  let (s, slide) := s.createIn document (.frame title?) .first
  s.createAllIn slide [.command command { options }]

def setTitle (d : Deck) (s : Store) (title author : String) (date? subtitle? : Option String) : Store :=
  let s := addTitle s d.header title author date? subtitle?
  let s := openWith s d.document (some title) "tableofcontents" ["hideallsubsections"]
  openWith s d.document none "titlepage" []

def makeCodeHeader (s : Store) (comment? : Option String) : Store × NodeId :=
  let (s, header) := s.create .header
  (s.createAllIn header [.package listingName [] comment?], header)

def codeRecord : Log.Record where
  level := .debug
  source := .document
  message := "Code found, adding " ++ listingName ++ " to preamble"

/-- Writes the line that loads the listing package. The nodes that are made for it are dropped behind it, as
nothing refers to them. -/
def renderCodeHeader (settings : LooseSettings) : Writing String := do
  let s := (← get).store
  let (made, header) := makeCodeHeader s settings.comment?
  modify fun d => { d with store := made }
  let text ← Renderer.render settings.step? header
  modify fun d => { d with store := d.store.take s.size }
  return text

def renderListingLine (d : Deck) (settings : LooseSettings) : Writing String := do
  if ← Writing.holds .code d.document then
    Writing.log codeRecord
    renderCodeHeader settings
  else return ""

def render (d : Deck) (settings : LooseSettings) : Writing String := do
  let preamble ← Renderer.render settings.step? d.preamble
  let listingLine ← d.renderListingLine settings
  let header ← Renderer.render settings.step? d.header
  let document ← Renderer.render settings.step? d.document
  return preamble ++ listingLine ++ header ++ "\n" ++ document

end Deck

end SlideDeck
