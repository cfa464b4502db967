import SlideDeck.Datum.Basic
import SlideDeck.Yaml.Graph.Document
import SlideDeck.Yaml.Graph.Merge
import SlideDeck.Yaml.Scalar
import SlideDeck.Yaml.Shape

/-! The value of a document. A collection is made first and filled later, when all that were met before it
have been filled, so that it may be a part of itself. The first fault on this way is the fault of the
document. -/

namespace SlideDeck.Yaml

/-- What a node has become. The parts of collections are nodes in turn. -/
inductive Built where
  | scalar (value : Scalar)
  | unfilled
  | sequence (items : List Nat)
  | pairs (items : List (Nat × Nat))
  | set (items : List Scalar)
  | mapping (entries : List (Scalar × Nat))
  deriving Repr, DecidableEq

structure Builder where
  graph : Graph
  values : Array (Option Built)
  merges : Nat
  waiting : List Nat := []
  deriving Repr

namespace Builder

def start (graph : Graph) : Builder where
  graph := graph
  values := Array.replicate graph.size none
  merges := graph.mergeCount

def value? (b : Builder) (place : Nat) : Option Built := b.values[place]?.join

end Builder

abbrev Build := StateT Builder (Except Fault)

namespace Build

def fail {α : Type} : Build α := throw .malformed

def put (place : Nat) (value : Built) : Build Unit :=
  modify fun b => { b with values := b.values.setIfInBounds place (some value) }

def make (place : Nat) : Build Built := do
  match (← get).value? place with
  | some value => return value
  | none =>
    match ((← get).graph.node place).tag with
    | .seq | .map | .set | .omap | .pairs =>
      put place .unfilled
      modify fun b => { b with waiting := place :: b.waiting }
      return .unfilled
    | _ =>
      let value ← Built.scalar <$> (← get).graph.scalar place
      put place value
      return value

def makeKey (place : Nat) : Build Scalar := do
  match ← make place with
  | .scalar value => return value
  | _ => fail

def makeEntries : List (Nat × Nat) → (done : List (Scalar × Nat)) → Build (List (Scalar × Nat))
  | [], done => return done
  | (key, value) :: rest, done => do
    let key ← makeKey key
    discard (make value)
    makeEntries rest (Datum.put key value done)

def entries (place : Nat) : Build (List (Scalar × Nat)) := do
  let b ← get
  let g ← b.graph.flatten b.merges place
  modify fun b => { b with graph := g }
  makeEntries (g.pairs place) []

def makePair (item : Nat) : Build (Nat × Nat) := do
  match ((← get).graph.node item).content with
  | .mapping [(key, value)] =>
    discard (make key)
    discard (make value)
    return (key, value)
  | _ => fail

def fill (place : Nat) : Build Unit := do
  let node := (← get).graph.node place
  match node.tag, node.content with
  | .seq, .sequence items =>
    items.forM fun item => discard (make item)
    put place (.sequence items)
  | .omap, .sequence items | .pairs, .sequence items =>
    put place (.pairs (← items.mapM makePair))
  | .set, .mapping _ => put place (.set ((← entries place).map (·.1)))
  | .map, .mapping _ => put place (.mapping (← entries place))
  | _, _ => fail

/-- Fills the collections that wait, and then those that were met in them. No collection waits twice. -/
def fillAll : (fuel : Nat) → Build Unit
  | 0 => return
  | fuel + 1 => do
    match (← get).waiting.reverse with
    | [] => return
    | waiting =>
      modify fun b => { b with waiting := [] }
      waiting.forM fill
      fillAll fuel

/-- Makes and fills all that a root leads to. Each round fills a node at least, so there are no more rounds
than nodes. -/
def document (size root : Nat) : Build Unit := do
  discard (make root)
  fillAll size

end Build

namespace Builder

def shell (b : Builder) (place : Nat) : Datum :=
  match b.value? place with
  | some (.scalar value) => .scalar value
  | some (.mapping _) => .mapping []
  | some (.set items) => .set items
  | _ => .sequence []

def outline (b : Builder) (place : Nat) : Datum :=
  match b.value? place with
  | some (.sequence items) => .sequence (items.map b.shell)
  | some (.pairs items) => .sequence (items.map fun (key, value) => .sequence [b.shell key, b.shell value])
  | some (.mapping entries) => .mapping (entries.map fun (key, value) => (key, b.shell value))
  | _ => b.shell place

mutual

/-- As much of a value as is wanted. Where the value has another form it is outlined. -/
def extract (b : Builder) : Shape → (place : Nat) → Datum
  | .plain, place => b.shell place
  | .list item, place =>
    match b.value? place with
    | some (.sequence items) => .sequence (items.map fun place => b.extract item place)
    | _ => b.outline place
  | .record fields, place =>
    match b.value? place with
    | some (.mapping entries) =>
      .mapping (entries.map fun (key, value) => (key, b.extractField fields key value))
    | _ => b.outline place

def extractField (b : Builder) : List (String × Shape) → (key : Scalar) → (place : Nat) → Datum
  | [], _, place => b.shell place
  | (name, shape) :: rest, key, place =>
    if key.sameKey (.text name) then b.extract shape place else b.extractField rest key place

end

end Builder

/-- The value of the only document of a text as far as it is wanted; a text without a document has the value
null. -/
def read (shape : Shape) (source : Source) : Except Fault Datum := do
  let (graph, root?) ← Graph.read source
  match root? with
  | none => return .scalar .null
  | some root =>
    let (_, builder) ← (Build.document graph.size root).run (.start graph)
    return builder.extract shape root

end SlideDeck.Yaml
