import SlideDeck.Deck
import SlideDeck.Settings.File

namespace SlideDeck.Script

inductive Fault where
  | unknownName (name : String)
  | missing (typeName field : String)
  | owned (cause : Owned)
  | unknownKind (label : String)
  | failure (message : String)
  | unending
  | invalid (violations : List Violation)
  | load (cause : Settings.LoadFault)
  /-- An attribute cannot be set, or is one that making and attaching write and no script sets. -/
  | readOnly (typeName field : String)
  | constantName
  | fixedFields
  /-- A value cannot be used in the way that the step asks for. -/
  | unsuitable
  deriving Repr, DecidableEq

namespace Fault

def ownedMessage (cause : Owned) : String :=
  cause.node.typeName ++ " is already attached to " ++ cause.parent.typeName

def computedFields : List String := ["args", "opt_args", "inline_comment", "contents"]

def message? : Fault → Option String
  | unknownName name => some name
  | missing typeName field =>
    some ("\x27" ++ typeName ++ "\x27 object has no attribute \x27" ++ field ++ "\x27")
  | readOnly typeName field =>
    some (if computedFields.contains field then
      "property \x27" ++ field ++ "\x27 of \x27" ++ typeName ++ "\x27 object has no setter"
    else "\x27" ++ typeName ++ "\x27 object attribute \x27" ++ field ++ "\x27 is read-only")
  | constantName => some "<enum \x27Enum\x27> cannot set attribute \x27name\x27"
  | owned cause => some (ownedMessage cause)
  | unknownKind label => some (Text.quote label ++ " is not a valid NodeKind")
  | failure message => some message
  | load cause => cause.message?
  | unending | invalid _ | fixedFields | unsuitable => none

def ofObstacle : Obstacle → Fault
  | .unending => unending
  | .foreign => unsuitable
  | .untranslatable typeName => missing typeName "replace"

def ofUnusable : Unusable → Fault
  | .noList => unsuitable
  | .noPackage typeName => missing typeName "name"

end Fault

end SlideDeck.Script
