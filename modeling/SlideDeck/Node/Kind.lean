namespace SlideDeck

inductive Kind where
  | raw
  | text
  | command
  | package
  | containingCommand
  | newCommand
  | environment
  | itemize
  | frame
  | block
  | code
  | header
  deriving Repr, DecidableEq

namespace Kind

def all : List Kind :=
  [raw, text, command, package, containingCommand, newCommand, environment, itemize, frame, block,
    code, header]

theorem mem_all (kind : Kind) : kind ∈ all := by
  cases kind <;> simp [all]

def label : Kind → String
  | raw => "raw"
  | text => "text"
  | command => "command"
  | package => "package"
  | containingCommand => "containing_command"
  | newCommand => "new_command"
  | environment => "environment"
  | itemize => "itemize"
  | frame => "frame"
  | block => "block"
  | code => "code"
  | header => "header"

def constant : Kind → String
  | raw => "RAW"
  | text => "TEXT"
  | command => "COMMAND"
  | package => "PACKAGE"
  | containingCommand => "CONTAINING_COMMAND"
  | newCommand => "NEW_COMMAND"
  | environment => "ENVIRONMENT"
  | itemize => "ITEMIZE"
  | frame => "FRAME"
  | block => "BLOCK"
  | code => "CODE"
  | header => "HEADER"

def typeName : Kind → String
  | raw => "RawText"
  | text => "TranslatableText"
  | command => "Command"
  | package => "Package"
  | containingCommand => "ContainingCommand"
  | newCommand => "NewCommand"
  | environment => "Environment"
  | itemize => "Itemize"
  | frame => "Frame"
  | block => "Block"
  | code => "Code"
  | header => "Header"

def ofLabel? (label : String) : Option Kind := all.find? (·.label == label)

@[simp] theorem ofLabel?_label (kind : Kind) : ofLabel? kind.label = some kind := by
  cases kind <;> decide

def isContainer : Kind → Bool
  | raw | text | command | package => false
  | containingCommand | newCommand | environment | itemize | frame | block | code | header => true

def hasArguments : Kind → Bool
  | command | package | containingCommand | environment | itemize | frame => true
  | raw | text | newCommand | block | code | header => false

end Kind

end SlideDeck
