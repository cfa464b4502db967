import SlideDeck.Script.Entity
import SlideDeck.Script.Fault

namespace SlideDeck.Script

/-- The state of a running script. The names are in the order in which they were first bound. The marks are
attributes that were put on objects whose type has no such attribute. -/
structure Session where
  workspace : Workspace := {}
  names : List (String × Entity) := []
  marks : List ((Object × String) × Atom) := []
  logger : Log.Logger := {}
  deriving Repr

namespace Session

def store (s : Session) : Store := s.workspace.store

def withStore (s : Session) (store : Store) : Session :=
  { s with workspace := { s.workspace with store } }

def bindName (name : String) (entity : Entity) : List (String × Entity) → List (String × Entity)
  | [] => [(name, entity)]
  | entry :: rest =>
    if entry.1 = name then (name, entity) :: rest else entry :: bindName name entity rest

def bind (s : Session) (name? : Option String) (entity : Entity) : Session :=
  match name? with
  | none => s
  | some name => { s with names := bindName name entity s.names }

def lookup (s : Session) (name : String) : Except Fault Entity :=
  match s.names.lookup name with
  | some entity => .ok entity
  | none => .error (.unknownName name)

def missing {α : Type} (s : Session) (e : Entity) (field : String) : Except Fault α :=
  .error (.missing (e.typeName s.store) field)

def nameOf? (s : Session) (o : Object) : Option String :=
  (s.names.find? fun entry =>
    match entry.2 with
    | .object p => p == o
    | _ => false).map (·.1)

def reference (s : Session) (o : Object) : Reference where
  typeName := o.typeName s.store
  name? := s.nameOf? o
  kind? := match o with
    | .node n => some (s.store.kind n)
    | _ => none

def present (s : Session) : Entity → Value
  | .object (.settings i) => .settings (s.workspace.settingsAt i)
  | .object (.kind k) => .kind k
  | .object o => .reference (s.reference o)
  | .nodes form members => .list form (members.map fun n => .reference (s.reference (.node n)))
  | .part owner part => .texts (part.of (s.workspace.argumentsAt owner))
  | .value v => v

def mark (s : Session) (o : Object) (field : String) (value : Atom) : Session :=
  { s with marks := ((o, field), value) :: s.marks.filter (·.1 ≠ (o, field)) }

def marked? (s : Session) (o : Object) (field : String) : Option Atom :=
  s.marks.lookup (o, field)

end Session

end SlideDeck.Script
