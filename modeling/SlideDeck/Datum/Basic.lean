import SlideDeck.Datum.Scalar

namespace SlideDeck

/-- Untyped data. The keys of a mapping are distinct and in order. -/
inductive Datum where
  | scalar (value : Scalar)
  | sequence (items : List Datum)
  | set (items : List Scalar)
  | mapping (entries : List (Scalar × Datum))
  deriving Repr

namespace Datum

mutual

def decEq : (a b : Datum) → Decidable (a = b)
  | scalar a, scalar b =>
    if h : a = b then isTrue (congrArg scalar h) else isFalse fun e => h (scalar.inj e)
  | sequence xs, sequence ys =>
    match decEqItems xs ys with
    | isTrue h => isTrue (congrArg sequence h)
    | isFalse h => isFalse fun e => h (sequence.inj e)
  | set xs, set ys => if h : xs = ys then isTrue (congrArg set h) else isFalse fun e => h (set.inj e)
  | mapping xs, mapping ys =>
    match decEqEntries xs ys with
    | isTrue h => isTrue (congrArg mapping h)
    | isFalse h => isFalse fun e => h (mapping.inj e)
  | scalar _, sequence _ | scalar _, set _ | scalar _, mapping _
  | sequence _, scalar _ | sequence _, set _ | sequence _, mapping _
  | set _, scalar _ | set _, sequence _ | set _, mapping _
  | mapping _, scalar _ | mapping _, sequence _ | mapping _, set _ => isFalse nofun

def decEqItems : (xs ys : List Datum) → Decidable (xs = ys)
  | [], [] => isTrue rfl
  | [], _ :: _ | _ :: _, [] => isFalse nofun
  | x :: xs, y :: ys =>
    match decEq x y, decEqItems xs ys with
    | isTrue h, isTrue hs => isTrue (h ▸ hs ▸ rfl)
    | isFalse h, _ => isFalse fun e => h (List.cons.inj e).1
    | _, isFalse hs => isFalse fun e => hs (List.cons.inj e).2

def decEqEntries : (xs ys : List (Scalar × Datum)) → Decidable (xs = ys)
  | [], [] => isTrue rfl
  | [], _ :: _ | _ :: _, [] => isFalse nofun
  | (k, v) :: xs, (l, w) :: ys =>
    match decEq v w, decEqEntries xs ys with
    | isTrue h, isTrue hs =>
      if hk : k = l then isTrue (h ▸ hs ▸ hk ▸ rfl)
      else isFalse fun e => hk (Prod.mk.inj (List.cons.inj e).1).1
    | isFalse h, _ => isFalse fun e => h (Prod.mk.inj (List.cons.inj e).1).2
    | _, isFalse hs => isFalse fun e => hs (List.cons.inj e).2

end

instance : DecidableEq Datum := decEq

def text (value : CodeText) : Datum := scalar (.text value)

def isFalse : Datum → Bool
  | scalar value => value.isFalse
  | sequence items => items.isEmpty
  | set items => items.isEmpty
  | mapping entries => entries.isEmpty

def lookup (key : String) (entries : List (Scalar × Datum)) : Option Datum :=
  (entries.find? fun entry => entry.1.sameKey (.text key)).map (·.2)

/-- The entries with a value put under a key. A key that is there already keeps its place and its own
spelling. -/
def put {α : Type} (key : Scalar) (value : α) : List (Scalar × α) → List (Scalar × α)
  | [] => [(key, value)]
  | entry :: rest =>
    if entry.1.sameKey key then (entry.1, value) :: rest else entry :: put key value rest

end Datum

end SlideDeck
