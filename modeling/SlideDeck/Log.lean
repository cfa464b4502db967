/-! Log records and the levels that let them through. -/

namespace SlideDeck.Log

inductive Level where
  | debug
  | info
  | warning
  deriving Repr, DecidableEq

namespace Level

def label : Level → String
  | debug => "DEBUG"
  | info => "INFO"
  | warning => "WARNING"

def rank : Level → Nat
  | debug => 0
  | info => 1
  | warning => 2

def choose (verbose : Bool) (debug? : Option String) : Level :=
  if debug?.any (· ≠ "") then debug else if verbose then info else warning

end Level

inductive Source where
  | renderer
  | document
  | config
  deriving Repr, DecidableEq

def Source.label : Source → String
  | .renderer => "beamerdsl.renderer"
  | .document => "beamerdsl.document"
  | .config => "beamerdsl.config"

structure Record where
  level : Level
  source : Source
  message : String
  deriving Repr, DecidableEq

def visible (level? : Option Level) (records : List Record) : List Record :=
  match level? with
  | none => []
  | some level => records.filter fun record => level.rank ≤ record.level.rank

structure Handler where
  showTime : Bool
  showPath : Bool
  deriving Repr, DecidableEq

structure Logger where
  level? : Option Level := none
  handlers : List Handler := []
  propagates : Bool := true
  deriving Repr, DecidableEq

def Logger.setUp (logger : Logger) (verbose : Bool) (debug? : Option String) : Logger :=
  { logger with
    level? := some (Level.choose verbose debug?)
    handlers := [{ showTime := verbose, showPath := debug?.any (· ≠ "") }]
    propagates := false }

end SlideDeck.Log
