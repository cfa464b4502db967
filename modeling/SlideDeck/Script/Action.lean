import SlideDeck.Script.Construction
import SlideDeck.Script.Look
import SlideDeck.Settings.Load
import SlideDeck.Text.Blank

/-! Steps that are done at once. -/

namespace SlideDeck.Script

inductive Change where
  | headings (name? sub? : Option String)
  | setTitle (title author : String) (date? subtitle? : Option String)
  | addOption (option : String)
  | setComment (comment? : Option String)
  | addSlideQualifier (n : Int)
  | addSource (code : String)
  deriving Repr, DecidableEq

namespace Change

def method : Change → Method
  | headings _ _ => .headings
  | setTitle _ _ _ _ => .setTitle
  | addOption _ => .addOption
  | setComment _ => .setComment
  | addSlideQualifier _ => .addSlideQualifier
  | addSource _ => .addSource

end Change

inductive Action where
  | make (draft : Draft)
  | makeArguments (a : Arguments)
  | makeDeck (outlineTitle? : Option String) (source : SettingsSource)
  | makeCodeHeader (comment? : Option String)
  | change (on : String) (change : Change)
  | look (on : String) (look : Look)
  | assign (on field : String) (value : Atom)
  | assignSetting (on field : String) (value : Datum)
  | pushArgument (on value : String)
  | fail (message : String)
  | load (path : String) (file : Settings.File)
  | setUpLog (verbose : Bool) (debug? : Option String)
  | unknown (on? : Option String) (word : String)
  deriving Repr

namespace Session

def argumentsOf (s : Session) (e : Entity) (field : String) : Except Fault ArgumentsRef :=
  match e with
  | .object (.arguments a) => .ok a
  | .object (.node n) =>
    if (s.store.kind n).hasArguments then .ok (.ofNode n) else s.missing e field
  | _ => s.missing e field

def changeArguments (s : Session) (e : Entity) (method : Method) (f : Arguments → Arguments) :
    Except Fault (Session × Entity) := do
  let a ← s.argumentsOf e method.name
  let answer := match e with
    | .object (.arguments _) => Entity.nothing
    | e => e
  .ok (s.modifyArguments a f, answer)

def addSource (s : Session) (listing : NodeId) (source : String) : Session :=
  s.withStore (s.store.createAllIn listing [.raw (Text.trim source ++ "\n")])

def headingDrafts (name? sub? : Option String) : List Draft :=
  (name?.map fun name => Draft.command "section" { required := [name] }).toList ++
    (sub?.map fun sub => Draft.command "subsection" { required := [sub] }).toList

def change (s : Session) (e : Entity) (c : Change) : Except Fault (Session × Entity) :=
  match c with
  | .headings name? sub? => do
    let container ← s.containerFor e c.method
    .ok (s.withStore (s.store.createAllIn container (headingDrafts name? sub?)), .nothing)
  | .setTitle title author date? subtitle? =>
    match e with
    | .object (.deck i) =>
      match s.workspace.deck? i with
      | some deck => .ok (s.withStore (deck.setTitle s.store title author date? subtitle?), .nothing)
      | none => s.missing e c.method.name
    | _ => s.missing e c.method.name
  | .addOption option => s.changeArguments e c.method (·.addOption option)
  | .setComment comment? => s.changeArguments e c.method (·.setComment comment?)
  | .addSlideQualifier slide =>
    match e with
    | .object (.node n) =>
      .ok (s.withStore (s.store.modify n fun node => { node with slides? := some (.int slide) }), e)
    | _ => s.missing e c.method.name
  | .addSource source =>
    match e with
    | .object (.node n) =>
      match (s.store.node n).content with
      | .code _ _ listing => .ok (s.addSource listing source, e)
      | _ => s.missing e c.method.name
    | _ => s.missing e c.method.name

def assignSetting (s : Session) (e : Entity) (field : String) (value : Datum) : Except Fault Session :=
  match e with
  | .object (.deck i) =>
    match s.workspace.deck? i with
    | some deck =>
      match (s.workspace.settingsAt deck.settings).assign? field value with
      | some settings =>
        .ok { s with workspace := { s.workspace with
                settings := s.workspace.settings.setIfInBounds deck.settings settings } }
      | none => .error .fixedFields
    | none => s.missing e "config"
  | _ => s.missing e "config"

def makeCodeHeader (s : Session) (comment? : Option String) : Session × Entity :=
  let (store, header) := Deck.makeCodeHeader s.store comment?
  (s.withStore store, .node header)

end Session

structure Effect where
  session : Session
  records : List Log.Record := []
  outcome : Except Fault Entity

namespace Effect

def ofResult (s : Session) : Except Fault (Session × Entity) → Effect
  | .ok (session, e) => { session, outcome := .ok e }
  | .error fault => { session := s, outcome := .error fault }

end Effect

def Action.run (s : Session) : Action → Effect
  | .make draft =>
    let (store, n) := s.store.create draft
    { session := s.withStore store, outcome := .ok (.node n) }
  | .makeArguments a =>
    let (workspace, ref) := s.workspace.addArguments a
    { session := { s with workspace }, outcome := .ok (.object (.arguments ref)) }
  | .makeDeck outlineTitle? source => .ofResult s (s.makeDeck outlineTitle? source)
  | .makeCodeHeader comment? =>
    let (session, e) := s.makeCodeHeader comment?
    { session, outcome := .ok e }
  | .change on c => .ofResult s do s.change (← s.lookup on) c
  | .look on question =>
    match s.lookup on with
    | .error fault => { session := s, outcome := .error fault }
    | .ok e =>
      let (session, sight) := s.ask e question
      { session, records := sight.records, outcome := sight.outcome }
  | .assign on field value => .ofResult s do .ok (← s.set (← s.lookup on) field value, .nothing)
  | .assignSetting on field value => .ofResult s do
    .ok (← s.assignSetting (← s.lookup on) field value, .nothing)
  | .pushArgument on value => .ofResult s do
    let a ← s.argumentsOf (← s.lookup on) "args"
    .ok (s.modifyArguments a (·.addRequired value), .nothing)
  | .fail message => { session := s, outcome := .error (.failure message) }
  | .load path file =>
    let (records, result) := Settings.load path file
    match result with
    | .ok settings =>
      let (workspace, i) := s.workspace.addSettings settings
      { session := { s with workspace }, records, outcome := .ok (.object (.settings i)) }
    | .error cause => { session := s, records, outcome := .error (.load cause) }
  | .setUpLog verbose debug? =>
    let logger := s.logger.setUp verbose debug?
    { session := { s with logger }, outcome := .ok (.value (accountLog logger)) }
  | .unknown on? word =>
    { session := s,
      outcome := do
        if let some on := on? then let _ ← s.lookup on
        .error (.unknownName word) }

end SlideDeck.Script
