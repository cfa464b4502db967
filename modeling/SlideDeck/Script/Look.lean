import SlideDeck.Script.Account

/-! Questions about an object. Most only read; writing works on the nodes, and hands them on as it leaves them. -/

namespace SlideDeck.Script

inductive Look where
  | has (label : String)
  | field (name : String)
  | count
  | list
  | dump
  | describe
  | equal (other : String)
  | print
  | write (step? : Option String)
  deriving Repr, DecidableEq

structure Sight where
  records : List Log.Record := []
  outcome : Except Fault Entity

namespace Sight

def ofOption (f : Fault) (o : Option Entity) : Sight where
  outcome := match o with
    | some e => .ok e
    | none => .error f

def ofText (text : String) : Sight where
  outcome := .ok (.value (.text text))

def ofRendering (r : Rendering) : Sight where
  records := r.records
  outcome := (r.outcome.map fun text => Entity.value (.text text)).mapError Fault.ofObstacle

end Sight

namespace Session

def sameObject (s : Session) : Object → Object → Bool
  | .arguments a, .arguments b => (s.workspace.argumentsAt a).same (s.workspace.argumentsAt b)
  | .settings i, .settings j => (s.workspace.settingsAt i).same (s.workspace.settingsAt j)
  | o, p => o == p

/-- Whether two entities are equal: lists item by item if they have one form, values by what they are. A kind
equals its label. -/
def equal (s : Session) (e f : Entity) : Bool :=
  match e, f with
  | .object (.kind k), f => (Value.kind k).same (s.present f)
  | e, .object (.kind k) => (Value.kind k).same (s.present e)
  | .object o, .object p => s.sameObject o p
  | .object _, _ | _, .object _ => false
  | .nodes form xs, .nodes other ys => form == other && xs == ys
  | e, f => (s.present e).same (s.present f)

def settingsEntries (settings : LooseSettings) : List (String × Value) :=
  let held {α : Type} (ofProper : α → Value) : Held α → Value
    | .proper value => ofProper value
    | .foreign datum => .ofDatum datum
  let text (t : CodeText) := Value.text t.shown
  [("document_class", held text settings.documentClass),
    ("class_options", held (fun l => .list .list (l.map text)) settings.classOptions),
    ("indent", held text settings.indent),
    ("packages", held (fun l => .list .list (l.map .package)) settings.packages),
    ("code_package_comment",
      held (fun o => .atom (Atom.ofText? (o.map CodeText.shown))) settings.codeComment?)]

def characters (text : String) : Entity := .value (.texts (text.toList.map Char.toString))

/-- What an entity lists: the children of a container, the items of a list, the names of a record, the
characters of a text, the fields of settings. -/
def members? (s : Session) : Entity → Option Entity
  | .object (.node n) =>
    if (s.store.kind n).isContainer then some (.nodes .list (s.store.children n)) else none
  | .object (.kind k) => some (characters k.label)
  | .object (.settings i) =>
    some (.value (.list .list ((settingsEntries (s.workspace.settingsAt i)).map fun (name, value) =>
      .list .tuple [.text name, value])))
  | .object (.arguments _) | .object (.deck _) => none
  | .nodes _ members => some (.nodes .list members)
  | .part owner part => some (.value (.texts (part.of (s.workspace.argumentsAt owner))))
  | .value (.atom (.text text)) => some (characters text)
  | .value (.list _ items) => some (.value (.list .list items))
  | .value (.record entries) => some (.value (.texts (entries.map (·.1))))
  | .value _ => none

def count? (s : Session) : Entity → Option Nat
  | .object (.settings _) => none
  | e =>
    match s.members? e with
    | some (.nodes _ members) => some members.length
    | some (.value (.list _ items)) => some items.length
    | _ => none

def isFalse (s : Session) : Entity → Bool
  | .value (.atom a) => a.isFalse
  | e => s.count? e == some 0

def has (s : Session) (e : Entity) (label : String) : Except Fault Entity :=
  let search (n : NodeId) : Except Fault Entity :=
    match Kind.ofLabel? label with
    | none => .error (.unknownKind label)
    | some kind =>
      match s.store.has? kind n with
      | some found => .ok (.atom (.bool found))
      | none => .error .unending
  match e with
  | .object (.node n) => search n
  | .object (.deck i) =>
    match s.workspace.deck? i with
    | some deck => search deck.document
    | none => s.missing e "has"
  | _ => s.missing e "has"

def begin (s : Session) (w : Writing String) : Session × Sight :=
  let (store, rendering) := w.begin s.store
  (s.withStore store, .ofRendering rendering)

def render (s : Session) (e : Entity) (step : String) : Session × Sight :=
  match e with
  | .object (.node n) => s.begin (Renderer.render (some step) n)
  | .object (.deck i) =>
    match s.workspace.deck? i with
    | some deck => s.begin (deck.render (s.workspace.settingsAt deck.settings))
    | none => (s, { outcome := s.missing e "kind" })
  | _ => (s, { outcome := s.missing e "kind" })

def spell (s : Session) (e : Entity) : Session × Sight :=
  match e with
  | .object (.node _) | .object (.deck _) => s.render e standardIndent
  | .object (.arguments a) => (s, .ofText (s.workspace.argumentsAt a).describe)
  | .object (.settings i) => (s, .ofText (s.workspace.settingsAt i).describe)
  | .object (.kind k) => (s, .ofText ("NodeKind." ++ k.constant))
  | .nodes form members => (s, .ofText (form.write (members.map s.describeItem)))
  | .value (.atom (.text text)) => (s, .ofText text)
  | e => (s, .ofText (s.present e).write)

def ask (s : Session) (e : Entity) : Look → Session × Sight
  | .has label => (s, { outcome := s.has e label })
  | .field name => (s, { outcome := s.get e name })
  | .count => (s, .ofOption .unsuitable ((s.count? e).map fun n => .atom (.int n)))
  | .list => (s, .ofOption .unsuitable (s.members? e))
  | .dump => (s, { outcome := s.account e })
  | .describe => (s, { outcome := .ok (.atom (Atom.ofText? (s.describe e))) })
  | .equal other => (s, { outcome := (s.lookup other).map fun f => .atom (.bool (s.equal e f)) })
  | .print => s.spell e
  | .write step? => s.render e (step?.getD standardIndent)

end Session

end SlideDeck.Script
