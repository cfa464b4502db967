import SlideDeck.Settings.File
import SlideDeck.Yaml.Value

namespace SlideDeck.Settings

/-- The parts of a document that the rules for settings look at. -/
def shape : Yaml.Shape :=
  .record [("class_options", .list .plain), ("packages", .list (.record [("options", .list .plain)]))]

def readDocument (bytes : List UInt8) : Except LoadFault Datum :=
  match Yaml.read shape (.ofBytes bytes) with
  | .ok document => .ok document
  | .error fault => .error (.yaml fault)

def load (path : String) : File → List Log.Record × Except LoadFault Settings
  | .missing => ([defaultsRecord path], .ok {})
  | .directory => ([], .error .directory)
  | .content bytes =>
    match readDocument bytes >>= ofDocument path with
    | .ok settings => ([loadedRecord path], .ok settings)
    | .error fault => ([], .error fault)

end SlideDeck.Settings
