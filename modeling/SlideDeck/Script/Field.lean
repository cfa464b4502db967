import SlideDeck.Script.Method
import SlideDeck.Script.Session

/-! The attributes of objects by their names. -/

namespace SlideDeck

namespace Node

def shownSlides (n : Node) : Atom := (n.slides?.map Slides.atom).getD .null

def plainField? (n : Node) (name : String) : Option Atom :=
  match name, n.content with
  | "slides", _ => some n.shownSlides
  | "text", .raw text => some (.text text)
  | "text", .text source => some (.text source)
  | "name", .command name _ => some (.text name)
  | "name", .package name _ => some (.text name)
  | "name", .containingCommand name _ => some (.text name)
  | "name", .newCommand name _ => some (.text name)
  | "name", .environment _ name _ => some (.text name)
  | "title", .block title => some (.text title)
  | "title", .code title _ _ => some (.text title)
  | "language", .code _ language _ => some (.text language)
  | "n_args", .newCommand _ arity => some arity
  | "inline_comment", content => content.arguments?.map Arguments.comment
  | _, _ => none

def field? (n : Node) (name : String) : Option Atom := (n.odd.lookup name).or (n.plainField? name)

end Node

namespace Content

/-- The content with one of its texts replaced by what is written of a value, or with the value as the number of
arguments. -/
def assign? (c : Content) (name : String) (value : Atom) : Option Content :=
  match name, c with
  | "text", .raw _ => some (.raw value.shown)
  | "text", .text _ => some (.text value.shown)
  | "name", .command _ a => some (.command value.shown a)
  | "name", .package _ a => some (.package value.shown a)
  | "name", .containingCommand _ a => some (.containingCommand value.shown a)
  | "name", .newCommand _ arity => some (.newCommand value.shown arity)
  | "name", .environment form _ a => some (.environment form value.shown a)
  | "title", .block _ => some (.block value.shown)
  | "title", .code _ language listing => some (.code value.shown language listing)
  | "language", .code title _ listing => some (.code title value.shown listing)
  | "n_args", .newCommand name _ => some (.newCommand name value)
  | _, _ => none

end Content

namespace Node

def assign? (n : Node) (name : String) (value : Atom) : Option Node :=
  if name = "slides" then some { n with slides? := Slides.ofAtom? value }
  else (n.content.assign? name value).map fun content =>
    if name = "n_args" then { n with content } else { n with content }.keepOdd name value

end Node

namespace Script.Session

def nodeField? (s : Session) (n : NodeId) (name : String) : Option Entity :=
  let node := s.store.node n
  let ofArguments (e : Entity) := if node.kind.hasArguments then some e else none
  match name, node.content with
  | "kind", _ => some (.object (.kind node.kind))
  | "parent", _ => some ((node.parent?.map Entity.node).getD .nothing)
  | "minted", .code _ _ listing => some (.node listing)
  | "contents", _ => if node.kind.isContainer then some (.nodes .tuple node.children) else none
  | "arguments", _ => ofArguments (.object (.arguments (.ofNode n)))
  | "args", _ => ofArguments (.part (.ofNode n) .required)
  | "opt_args", _ => ofArguments (.part (.ofNode n) .options)
  | _, _ => (node.field? name).map .atom

def argumentsField? (s : Session) (a : ArgumentsRef) : (name : String) → Option Entity
  | "args" => some (.part a .required)
  | "opt_args" => some (.part a .options)
  | "comment" => some (.atom (s.workspace.argumentsAt a).comment)
  | _ => none

def deckField? (d : Deck) : (name : String) → Option Entity
  | "toctitle" => some (.atom d.outlineTitle)
  | "config" => some (.object (.settings d.settings))
  | "document" => some (.node d.document)
  | "base_header" => some (.node d.preamble)
  | "custom_header" => some (.node d.header)
  | _ => none

/-- A method of a text as a value, of which an answer shows the type alone. -/
def textMethod : Entity := .value (.reference { typeName := "builtin_function_or_method" })

def ownField? (s : Session) (o : Object) (name : String) : Option Entity :=
  match o with
  | .node n => s.nodeField? n name
  | .arguments a => s.argumentsField? a name
  | .deck i => (s.workspace.deck? i).bind fun deck => deckField? deck name
  | .settings _ => none
  | .kind k =>
    match name with
    | "name" => some (.value (.text k.constant))
    | "title" => some textMethod
    | _ => none

def field? (s : Session) (o : Object) (name : String) : Option Entity :=
  ((s.marked? o name).map .atom).or (s.ownField? o name)

def get (s : Session) (e : Entity) (name : String) : Except Fault Entity :=
  match e with
  | .object o =>
    match s.field? o name with
    | some value => .ok value
    | none => s.missing e name
  | .value (.atom (.text _)) => if name = "title" then .ok textMethod else s.missing e name
  | e => s.missing e name

def setOutlineTitle (s : Session) (i : Nat) (title : Atom) : Session :=
  { s with workspace := { s.workspace with
      decks := s.workspace.decks.modify i fun deck => { deck with outlineTitle := title } } }

def modifyArguments (s : Session) (a : ArgumentsRef) (f : Arguments → Arguments) : Session :=
  { s with workspace := s.workspace.modifyArguments f a }

/-- Puts a mark on an object whose type has no such attribute. All others that come here are refused: those that
have a value of their own but no setter, those that only making and attaching write, and the methods. -/
def markUnlessOwn (s : Session) (o : Object) (name : String) (value : Atom) : Except Fault Session :=
  if (s.ownField? o name).isSome ∨ s.reserves o name then
    .error (.readOnly (o.typeName s.store) name)
  else .ok (s.mark o name value)

def assign (s : Session) (o : Object) (name : String) (value : Atom) : Except Fault Session :=
  match o with
  | .node n =>
    match (s.store.node n).assign? name value with
    | some node => .ok (s.withStore (s.store.modify n fun _ => node))
    | none => s.markUnlessOwn o name value
  | .deck i => if name = "toctitle" then .ok (s.setOutlineTitle i value) else s.markUnlessOwn o name value
  | .arguments a =>
    if name = "comment" then .ok (s.modifyArguments a (·.assignComment value)) else s.markUnlessOwn o name value
  | .kind _ => if name = "name" then .error .constantName else .ok (s.mark o name value)
  | .settings _ => .error .fixedFields

def set (s : Session) (e : Entity) (name : String) (value : Atom) : Except Fault Session :=
  match e with
  | .object o => s.assign o name value
  | .value (.atom (.text _)) =>
    if name = "title" then .error (.readOnly (e.typeName s.store) name) else s.missing e name
  | e => s.missing e name

end Script.Session

end SlideDeck
