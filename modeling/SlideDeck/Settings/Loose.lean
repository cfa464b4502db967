import SlideDeck.Datum.Written
import SlideDeck.Settings.Basic

/-! Settings whose fields can be assigned without a check. -/

namespace SlideDeck

/-- What a field holds: a value of its type, or any other datum that was put there. -/
inductive Held (α : Type) where
  | proper (value : α)
  | foreign (datum : Datum)
  deriving Repr, DecidableEq

namespace Held

def ofOption {α : Type} (datum : Datum) : Option α → Held α
  | some value => proper value
  | none => foreign datum

def write {α : Type} (write : α → String) : Held α → String
  | proper value => write value
  | foreign datum => datum.write

def same {α : Type} [BEq α] : Held α → Held α → Bool
  | proper a, proper b => a == b
  | foreign a, foreign b => a.same b
  | _, _ => false

end Held

structure LooseSettings where
  documentClass : Held CodeText
  classOptions : Held (List CodeText)
  indent : Held CodeText
  packages : Held (List PackageLine)
  codeComment? : Held (Option CodeText)
  deriving Repr, DecidableEq

def Settings.loose (s : Settings) : LooseSettings where
  documentClass := .proper s.documentClass
  classOptions := .proper s.classOptions
  indent := .proper s.indent
  packages := .proper s.packages
  codeComment? := .proper s.codeComment?

namespace LooseSettings

def text? : Datum → Option CodeText
  | .scalar (.text value) => some value
  | _ => none

def texts? : Datum → Option (List CodeText)
  | .sequence items => items.mapM text?
  | _ => none

def textOrNull? : Datum → Option (Option CodeText)
  | .scalar .null => some none
  | datum => (text? datum).map some

/-- A package line is never put in by an assignment, so only an empty list is of the type of this field. -/
def packages? : Datum → Option (List PackageLine)
  | .sequence [] => some []
  | _ => none

def assign? (s : LooseSettings) (field : String) (value : Datum) : Option LooseSettings :=
  match field with
  | "document_class" => some { s with documentClass := .ofOption value (text? value) }
  | "class_options" => some { s with classOptions := .ofOption value (texts? value) }
  | "indent" => some { s with indent := .ofOption value (text? value) }
  | "packages" => some { s with packages := .ofOption value (packages? value) }
  | "code_package_comment" => some { s with codeComment? := .ofOption value (textOrNull? value) }
  | _ => none

def describe (s : LooseSettings) : String :=
  "document_class=" ++ s.documentClass.write Text.quote ++
    " class_options=" ++ s.classOptions.write Text.quoteList ++
    " indent=" ++ s.indent.write Text.quote ++
    " packages=" ++ s.packages.write (fun lines => Text.bracketList (lines.map PackageLine.describe)) ++
    " code_package_comment=" ++ s.codeComment?.write Text.quote?

def same (s t : LooseSettings) : Bool :=
  s.documentClass.same t.documentClass && s.classOptions.same t.classOptions &&
    s.indent.same t.indent && s.packages.same t.packages && s.codeComment?.same t.codeComment?

end LooseSettings

end SlideDeck
