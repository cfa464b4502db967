import SlideDeck.Log
import SlideDeck.Settings.Check
import SlideDeck.Yaml.Fault

namespace SlideDeck.Settings

def defaultPath : String := "beamer.yaml"

inductive File where
  | missing
  | directory
  | content (bytes : List UInt8)
  deriving Repr, DecidableEq

inductive LoadFault where
  | directory
  | yaml (fault : Yaml.Fault)
  | noMapping (path : String)
  | invalid (path : String) (violations : List Violation)
  deriving Repr, DecidableEq

def faultMessage (path message : String) : String := "Invalid config " ++ path ++ ": " ++ message

def LoadFault.message? : LoadFault → Option String
  | .noMapping path => some (faultMessage path "top level must be a mapping")
  | .invalid path violations => some (faultMessage path (Violation.summary violations))
  | .directory | .yaml _ => none

def defaultsRecord (path : String) : Log.Record where
  level := .debug
  source := .config
  message := "No config at " ++ path ++ ", using defaults"

def loadedRecord (path : String) : Log.Record where
  level := .info
  source := .config
  message := "Loaded config from " ++ path

/-- The settings that a document states; a false document states none. -/
def ofDocument (path : String) (document : Datum) : Except LoadFault Settings :=
  match if document.isFalse then .mapping [] else document with
  | .mapping entries =>
    match check (.mapping entries) with
    | .ok settings => .ok settings
    | .error violations => .error (.invalid path violations)
  | _ => .error (.noMapping path)

end SlideDeck.Settings
