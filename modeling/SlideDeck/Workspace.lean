import SlideDeck.Deck

namespace SlideDeck

inductive ArgumentsRef where
  | ofNode (n : NodeId)
  | free (i : Nat)
  deriving Repr, DecidableEq

structure Workspace where
  store : Store := {}
  arguments : Array Arguments := #[]
  settings : Array LooseSettings := #[]
  decks : Array Deck := #[]
  deriving Repr, DecidableEq

namespace Workspace

def deck? (w : Workspace) (i : Nat) : Option Deck := w.decks[i]?

def settingsAt (w : Workspace) (i : Nat) : LooseSettings := w.settings.getD i ({} : Settings).loose

def argumentsAt (w : Workspace) : ArgumentsRef → Arguments
  | .ofNode n => ((w.store.node n).content.arguments?).getD {}
  | .free i => w.arguments.getD i {}

def modifyArguments (w : Workspace) (f : Arguments → Arguments) : ArgumentsRef → Workspace
  | .ofNode n => { w with store := w.store.modify n (·.mapArguments f) }
  | .free i => { w with arguments := w.arguments.modify i f }

def addArguments (w : Workspace) (a : Arguments) : Workspace × ArgumentsRef :=
  ({ w with arguments := w.arguments.push a }, .free w.arguments.size)

def addSettings (w : Workspace) (s : Settings) : Workspace × Nat :=
  ({ w with settings := w.settings.push s.loose }, w.settings.size)

def addDeck (w : Workspace) (outlineTitle? : Option String) (place : Nat) :
    Except Unusable (Workspace × Nat) := do
  let (store, deck) ← Deck.build w.store (w.settingsAt place) place outlineTitle?
  return ({ w with store, decks := w.decks.push deck }, w.decks.size)

end Workspace

end SlideDeck
