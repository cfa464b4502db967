import SlideDeck.Node.Arguments
import SlideDeck.Settings.Loose

/-! What settings say about the preamble of a presentation. -/

namespace SlideDeck

structure Preamble where
  classArguments : Arguments
  foreign? : Option ForeignArguments
  packages : List PackageLine
  deriving Repr, DecidableEq

inductive Unusable where
  | noList
  | noPackage (typeName : String)
  deriving Repr, DecidableEq

namespace LooseSettings

/-- The arguments of the class line. If one of them is no text they are foreign. -/
def classLine (className : Held CodeText) (options : List Datum) : Arguments × Option ForeignArguments :=
  match className, options.mapM text? with
  | .proper name, some texts => ({ required := [name.shown], options := texts.map CodeText.shown }, none)
  | .proper name, none => ({}, some { required := [.text name], options })
  | .foreign datum, _ => ({}, some { required := [datum], options })

def optionData : Held (List CodeText) → Except Unusable (List Datum)
  | .proper texts => .ok (texts.map Datum.text)
  | .foreign datum =>
    match datum.items? with
    | some items => .ok items
    | none => .error .noList

def packageLines : Held (List PackageLine) → Except Unusable (List PackageLine)
  | .proper lines => .ok lines
  | .foreign datum =>
    match datum.items? with
    | none => .error .noList
    | some [] => .ok []
    | some (item :: _) => .error (.noPackage item.typeName)

def preamble (s : LooseSettings) : Except Unusable Preamble := do
  let (classArguments, foreign?) := classLine s.documentClass (← optionData s.classOptions)
  return { classArguments, foreign?, packages := ← packageLines s.packages }

def step? (s : LooseSettings) : Option String :=
  match s.indent with
  | .proper text => some text.shown
  | .foreign _ => none

def comment? (s : LooseSettings) : Option String :=
  match s.codeComment? with
  | .proper comment? => comment?.map CodeText.shown
  | .foreign datum => some datum.write

end LooseSettings

end SlideDeck
