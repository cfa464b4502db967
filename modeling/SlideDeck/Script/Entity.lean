import SlideDeck.Script.Value
import SlideDeck.Workspace

namespace SlideDeck.Script

/-- An object with an identity of its own. Each kind is one object wherever it is met. -/
inductive Object where
  | node (n : NodeId)
  | arguments (a : ArgumentsRef)
  | deck (i : Nat)
  | settings (i : Nat)
  | kind (k : Kind)
  deriving Repr, DecidableEq

inductive Part where
  | required
  | options
  deriving Repr, DecidableEq

def Part.of (a : Arguments) : Part → List String
  | required => a.required
  | options => a.options

inductive Entity where
  | object (o : Object)
  | nodes (form : Listing) (members : List NodeId)
  /-- A list of arguments itself, which changes with them. -/
  | part (owner : ArgumentsRef) (part : Part)
  | value (v : Value)
  deriving Repr

namespace Entity

def atom (a : Atom) : Entity := .value (.atom a)

def node (n : NodeId) : Entity := .object (.node n)

def nothing : Entity := atom .null

/-- The entity as a name is bound to it. A value that is shown by reference keeps its first name. -/
def named (name? : Option String) : Entity → Entity
  | value (.reference r) => value (.reference { r with name? := r.name?.or name? })
  | e => e

end Entity

namespace Object

def typeName (store : Store) : Object → String
  | node n => (store.kind n).typeName
  | arguments _ => "Arguments"
  | deck _ => "Beamer"
  | settings _ => "BeamerConfig"
  | kind _ => "NodeKind"

end Object

namespace Entity

def typeName (store : Store) : Entity → String
  | object o => o.typeName store
  | nodes form _ => form.typeName
  | part _ _ => Listing.list.typeName
  | value v => v.typeName

end Entity

end SlideDeck.Script
