namespace SlideDeck

inductive PathStep where
  | field (name : String)
  | index (n : Int)
  deriving Repr, DecidableEq

abbrev Path := List PathStep

inductive Rule where
  | text
  | encodedText
  | list
  | required
  | declared
  | textKey
  | mapping (type : String)
  deriving Repr, DecidableEq

namespace Rule

def label : Rule → String
  | text => "string_type"
  | encodedText => "string_unicode"
  | list => "list_type"
  | required => "missing"
  | declared => "extra_forbidden"
  | textKey => "invalid_key"
  | mapping _ => "model_type"

def message : Rule → String
  | text => "Input should be a valid string"
  | encodedText => "Input should be a valid string, unable to parse raw data as a unicode string"
  | list => "Input should be a valid list"
  | required => "Field required"
  | declared => "Extra inputs are not permitted"
  | textKey => "Keys should be strings"
  | mapping type => "Input should be a valid dictionary or instance of " ++ type

end Rule

structure Violation where
  path : Path
  rule : Rule
  deriving Repr, DecidableEq

namespace Violation

def summary (violations : List Violation) : String :=
  toString violations.length ++
    (if violations.length = 1 then " validation error" else " validation errors") ++
    " for BeamerConfig"

end Violation

end SlideDeck
