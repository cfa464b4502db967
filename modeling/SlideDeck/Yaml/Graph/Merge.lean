import SlideDeck.Yaml.Fault
import SlideDeck.Yaml.Graph.Basic

/-! Merge keys. The pairs of the mappings that they name come before the pairs of the mapping that names them,
so that its own pairs win. -/

namespace SlideDeck.Yaml.Graph

def pairs (g : Graph) (place : Nat) : List (Nat × Nat) :=
  match (g.node place).content with
  | .mapping pairs => pairs
  | _ => []

def isMerge (g : Graph) (pair : Nat × Nat) : Bool := (g.node pair.1).tag = .merge

/-- Every flattening is paid by a merge key that is taken out. -/
def mergeCount (g : Graph) : Nat :=
  (List.range g.size).foldl (fun count place => count + (g.pairs place).countP g.isMerge) 0

def takeMerge? (g : Graph) (place : Nat) : Option (Nat × Graph) := do
  let pairs := g.pairs place
  let pair ← pairs.find? g.isMerge
  return (pair.2, g.setContent place (.mapping (pairs.eraseP g.isMerge)))

/-- The key that stands for the mapping as a whole is a text like others. -/
def plainKeys (g : Graph) (place : Nat) : Graph :=
  (g.pairs place).foldl
    (fun g pair => if (g.node pair.1).tag = .value then g.setTag pair.1 .str else g) g

/-- Replaces the merge keys of a mapping, some of which have been taken out already. The mappings that one
key names are flattened in order, and the last of them comes first. -/
def flattenFrom : (fuel : Nat) → (merged : List (Nat × Nat)) → (place : Nat) → Graph →
    Except Fault Graph
  | 0, _, _, _ => .error .malformed
  | fuel + 1, merged, place, g => do
    match g.takeMerge? place with
    | none => return (g.setContent place (.mapping (merged ++ g.pairs place))).plainKeys place
    | some (target, g) =>
      match (g.node target).content with
      | .mapping _ =>
        let g ← flattenFrom fuel [] target g
        flattenFrom fuel (merged ++ g.pairs target) place g
      | .sequence items =>
        let (parts, g) ← items.foldlM (fun (parts, g) item => do
          match (g.node item).content with
          | .mapping _ =>
            let g ← flattenFrom fuel [] item g
            return (g.pairs item ++ parts, g)
          | _ => .error .malformed) (([], g) : List (Nat × Nat) × Graph)
        flattenFrom fuel (merged ++ parts) place g
      | .scalar _ => .error .malformed

def flatten (bound : Nat) (g : Graph) (place : Nat) : Except Fault Graph :=
  flattenFrom (bound + 1) [] place g

end SlideDeck.Yaml.Graph
