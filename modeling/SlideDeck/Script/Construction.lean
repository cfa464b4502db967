import SlideDeck.Script.Look
import SlideDeck.Script.Method

/-! Steps that make or attach something and may run further steps on it before they are done. -/

namespace SlideDeck.Script

inductive Builder where
  | appendText (body : String) (slide? : Option Int)
  | comment (body : String)
  | blankline
  | command (name : String) (required : List String)
  | containingCommand (name : String)
  | environment (name : String) (required : List String)
  | center
  | itemize
  | pause
  | code (language : String) (title? : Option String)
  | block (title : String)
  | frame (title? : Option String)
  | package (name : String)
  | newCommand (name : String) (arity : Int)
  deriving Repr, DecidableEq

namespace Builder

def method : Builder → Method
  | appendText _ _ => .appendText
  | comment _ => .comment
  | blankline => .blankline
  | command _ _ => .command
  | containingCommand _ => .containingCommand
  | environment _ _ => .environment
  | center => .center
  | itemize => .itemize
  | pause => .pause
  | code _ _ => .code
  | block _ => .block
  | frame _ => .frame
  | package _ => .package
  | newCommand _ _ => .newCommand

def draft (container : Kind) : Builder → Draft
  | appendText body slide? => .textIn container body slide?
  | comment body => .comment body
  | blankline => .blankline
  | command name required => .command name { required }
  | containingCommand name => .containingCommand name
  | environment name required => .environment name required
  | center => .environment "center" []
  | itemize => .itemize
  | pause => .command "pause" {}
  | code language title? => .code language title?
  | block title => .block title
  | frame title? => .frame title?
  | package name => .package name [] none
  | newCommand name arity => .newCommand name arity

end Builder

inductive SettingsSource where
  | standard
  | shared (name : String)
  | data (datum : Datum)
  deriving Repr

inductive Construction where
  | deck (outlineTitle? : Option String) (source : SettingsSource)
  | adopt (on node : String) (place : Place)
  | child (on : String) (builder : Builder)
  | head (on : String)
  deriving Repr

/-- What a construction has begun: the object that it is about, and where it is to be attached. -/
structure Pending where
  subject : Entity
  target? : Option (NodeId × Place)
  deriving Repr

namespace Session

def takeStandardSettings (s : Session) : Session × Nat :=
  let (workspace, i) := s.workspace.addSettings {}
  ({ s with workspace }, i)

/-- The place of the settings from a source; new settings are added. What counts as false stands for the
standard settings. -/
def takeSettings (s : Session) : SettingsSource → Except Fault (Session × Nat)
  | .standard => .ok s.takeStandardSettings
  | .shared name => do
    match ← s.lookup name with
    | .object (.settings i) => .ok (s, i)
    | e => if s.isFalse e then .ok s.takeStandardSettings else s.missing e "document_class"
  | .data datum =>
    match Settings.check datum with
    | .ok settings =>
      let (workspace, i) := s.workspace.addSettings settings
      .ok ({ s with workspace }, i)
    | .error violations => .error (.invalid violations)

def makeDeck (s : Session) (outlineTitle? : Option String) (source : SettingsSource) :
    Except Fault (Session × Entity) := do
  let (s, place) ← s.takeSettings source
  match s.workspace.addDeck outlineTitle? place with
  | .ok (workspace, i) => .ok ({ s with workspace }, .object (.deck i))
  | .error cause => .error (.ofUnusable cause)

def checkFree (s : Session) (n : NodeId) : Except Fault Unit :=
  match s.store.owned? n with
  | some owned => .error (.owned owned)
  | none => .ok ()

end Session

/-- The part of a construction before the steps on its subject. A node that already has a parent is
refused here. -/
def Construction.start (s : Session) : Construction → Except Fault (Session × Pending)
  | .deck outlineTitle? source => do
    let (s, subject) ← s.makeDeck outlineTitle? source
    .ok (s, { subject, target? := none })
  | .adopt on node place => do
    let e ← s.lookup on
    let method := match place with
      | .first => Method.insertContent
      | .last => Method.addContent
    let container ← s.containerFor e method
    let subject ← s.lookup node
    match subject with
    | .object (.node n) =>
      s.checkFree n
      .ok (s, { subject, target? := some (container, place) })
    | _ => s.missing subject "parent"
  | .child on builder => do
    let e ← s.lookup on
    let container ← s.containerFor e builder.method
    let (store, n) := s.store.create (builder.draft (s.store.kind container))
    .ok (s.withStore store, { subject := .node n, target? := some (container, .last) })
  | .head on => do
    let e ← s.lookup on
    let header ← s.containerFor e .head
    .ok (s, { subject := .node header, target? := none })

/-- The part of a construction after the steps on its subject, which may have attached it elsewhere. -/
def Pending.finish (p : Pending) (s : Session) : Except Fault Session :=
  match p.subject, p.target? with
  | .object (.node n), some (container, place) => do
    s.checkFree n
    .ok (s.withStore (s.store.link container n place))
  | _, _ => .ok s

end SlideDeck.Script
