import SlideDeck.Log
import SlideDeck.Markup
import SlideDeck.Store.Walk

/-! Writing a tree depth first, one step of indentation deeper for each level. -/

namespace SlideDeck

inductive Obstacle where
  | unending
  | foreign
  | untranslatable (typeName : String)
  deriving Repr, DecidableEq

/-- What a writing works on: the nodes, the lists of options that it has made, the output so far, which is lost
once a part of it is no text, and the log. Any of these may be changed on the way. -/
structure Desk where
  store : Store
  lists : Array (List String) := #[]
  output : Option String := some ""
  records : List Log.Record := []

/-- A list of options: the one that a node holds, or one that was made on the way. -/
inductive OptionList where
  | ofNode (n : NodeId)
  | made (i : Nat)

namespace OptionList

def members (d : Desk) : OptionList → List String
  | ofNode n => ((d.store.node n).content.arguments?.getD {}).options
  | made i => d.lists.getD i []

def add (d : Desk) (option : String) : OptionList → Desk
  | ofNode n => { d with store := d.store.modify n (·.mapArguments (·.addOption option)) }
  | made i => { d with lists := d.lists.modify i (· ++ [option]) }

end OptionList

/-- A part of a writing. If it fails, the desk is left as it is then. -/
abbrev Writing := EStateM Obstacle Desk

namespace Writing

def put (text : String) : Writing Unit :=
  modify fun d => { d with output := d.output.map (· ++ text) }

/-- Puts a value into the output that is no text. -/
def putOdd : Writing Unit := modify fun d => { d with output := none }

def log (record : Log.Record) : Writing Unit :=
  modify fun d => { d with records := d.records ++ [record] }

def node (n : NodeId) : Writing Node := return (← get).store.node n

def holds (kind : Kind) (n : NodeId) : Writing Bool := do
  match (← get).store.has? kind n with
  | some found => return found
  | none => throw .unending

def written : Writing String := do
  match (← get).output with
  | some text => return text
  | none => throw .foreign

def members (options : OptionList) : Writing (List String) := return options.members (← get)

def copy (options : OptionList) : Writing OptionList :=
  modifyGet fun d => (.made d.lists.size, { d with lists := d.lists.push (options.members d) })

def add (option : String) (options : OptionList) : Writing Unit := modify fun d => options.add d option

end Writing

def fragile : String := "fragile"

namespace Renderer

open Writing

def bracketedOptions (n : Node) (options : OptionList) : Writing String :=
  if n.foreign?.isSome then throw .foreign else bracketed <$> members options

def onSlides (slides : Slides) : Writing String :=
  if slides.isText then throw .foreign else pure slides.command

def slideRange (slides : Slides) : Writing String :=
  if slides.isText then throw .foreign else pure slides.range

def makeFragile (n : NodeId) (options : OptionList) : Writing Unit := do
  let printed ← members options
  if fragile ∉ printed then
    let holdsCode ← holds .code n
    if holdsCode then add fragile options

/-- The options that are printed for an environment: a copy of its own, to which a frame may have to add. -/
def environmentOptions (form : Form) (n : NodeId) (root : Node) : Writing String := do
  let options ← copy (.ofNode n)
  (if form = .frame then makeFragile n options else pure ())
  bracketedOptions root options

section

variable (step? : Option String)

def deeper (indent : String) : Writing String :=
  match step? with
  | some step => pure (indent ++ step)
  | none => throw .foreign

def command (n : NodeId) (root : Node) (name : String) (a : Arguments) (indent : String) : Writing Unit := do
  put indent
  root.slides?.forM fun slides => do put ((← onSlides slides) ++ "\x7b\n" ++ indent ++ step?.getD "")
  put ("\\" ++ name)
  put (← bracketedOptions root (.ofNode n))
  put (String.join (a.required.map braced))
  put (if root.slides?.isSome then "\n" ++ indent ++ "\x7d" else "")
  put (trailing a.comment?)
  put "\n"

variable (body : (indent : String) → Writing Unit)

def containingCommand (n : NodeId) (root : Node) (name : String) (a : Arguments) (indent : String) :
    Writing Unit := do
  put (if a.comment?.isSome then trailing a.comment? ++ "\n" else "")
  put (indent ++ "\\" ++ name ++ (← bracketedOptions root (.ofNode n)) ++ "\x7b\n")
  body (← deeper step? indent)
  put "\x7d\n"

def newCommand (name : String) (arity : Atom) (indent : String) : Writing Unit := do
  put (indent ++ "\\newcommand\\" ++ name ++ "[" ++ arity.shown ++ "]\x7b\n")
  body (← deeper step? indent)
  put "\x7d\n"

def environment (form : Form) (n : NodeId) (root : Node) (name : String) (a : Arguments) (indent : String) :
    Writing Unit := do
  let options ← environmentOptions form n root
  let inner ← (if root.slides?.isSome then deeper step? indent else pure indent)
  root.slides?.forM fun slides => do put (indent ++ (← onSlides slides) ++ "\x7b\n")
  put (inner ++ "\\begin" ++ braced name ++ options)
  put (if a.required = [] then "" else braced (", ".intercalate a.required))
  put (trailing a.comment?)
  put "\n"
  body (← deeper step? inner)
  put (inner ++ "\\end" ++ braced name ++ "\n")
  put (if root.slides?.isSome then indent ++ "\x7d\n" else "")

def block (root : Node) (title : String) (indent : String) : Writing Unit := do
  put (indent ++ "\\begin\x7bblock\x7d")
  root.slides?.forM fun slides => do put (← slideRange slides)
  put (braced title ++ "\n")
  body (← deeper step? indent)
  put (indent ++ "\\end\x7bblock\x7d\n")

def handle (n : NodeId) (root : Node) (indent : String) : Writing Unit :=
  match root.content with
  | .raw text => if (root.odd.lookup "text").isSome then putOdd else put text
  | .text source =>
    match root.odd.lookup "text" with
    | some value => throw (.untranslatable value.typeName)
    | none => put (indent ++ translate source)
  | .command name a | .package name a => command step? n root name a indent
  | .containingCommand name a => containingCommand step? body n root name a indent
  | .newCommand name arity => newCommand step? body name arity indent
  | .environment form name a => environment step? body form n root name a indent
  | .block title | .code title _ _ => block step? body root title indent
  | .header => body indent

end

/-- Writes a node and all below it. A walk round a cycle is cut at the depth. -/
def draw (step? : Option String) : (depth : Nat) → NodeId → (indent : String) → Writing Unit
  | 0, _, _ => throw .unending
  | depth + 1, n, indent => do
    let root ← node n
    let body (inner : String) : Writing Unit := root.children.forM fun child => draw step? depth child inner
    handle step? body n root indent

def record (kind : Kind) : Log.Record where
  level := .debug
  source := .renderer
  message := "Rendering " ++ kind.label ++ " tree"

def render (step? : Option String) (n : NodeId) : Writing String := do
  let s := (← get).store
  log (record (s.kind n))
  modify fun d => { d with output := some "" }
  draw step? (s.size + 1) n ""
  written

end Renderer

structure Rendering where
  records : List Log.Record
  outcome : Except Obstacle String
  deriving Repr

def Writing.begin (w : Writing String) (s : Store) : Store × Rendering :=
  match w { store := s } with
  | .ok text d => (d.store, { records := d.records, outcome := .ok text })
  | .error cause d => (d.store, { records := d.records, outcome := .error cause })

end SlideDeck
