import SlideDeck.Store.Basic

/-! Attaching a node to a container. Each node has at most one parent, and a container lists exactly the
nodes whose parent it is. -/

namespace SlideDeck

inductive Place where
  | first
  | last
  deriving Repr, DecidableEq

structure Owned where
  node : Kind
  parent : Kind
  deriving Repr, DecidableEq

def Place.insert (place : Place) (n : NodeId) (children : List NodeId) : List NodeId :=
  match place with
  | .first => n :: children
  | .last => children ++ [n]

namespace Store

def owned? (s : Store) (n : NodeId) : Option Owned :=
  (s.parent? n).map fun parent => { node := s.kind n, parent := s.kind parent }

def link (s : Store) (container n : NodeId) (place : Place) : Store :=
  (s.modify n fun node => { node with parent? := some container }).modify container fun node =>
    { node with children := place.insert n node.children }

def createIn (s : Store) (container : NodeId) (draft : Draft) (place : Place) : Store × NodeId :=
  let (s, n) := s.create draft
  (s.link container n place, n)

def createAllIn (s : Store) (container : NodeId) (drafts : List Draft) : Store :=
  drafts.foldl (fun s draft => (s.createIn container draft .last).1) s

end Store

end SlideDeck
