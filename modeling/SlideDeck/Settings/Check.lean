import SlideDeck.Datum.Basic
import SlideDeck.Settings.Basic
import SlideDeck.Settings.Violation
import SlideDeck.Text.Utf8

/-! Reading settings from untyped data. A datum that breaks rules is answered by all the breaches whose
surroundings are well formed, in the order of the declared fields and then of the unknown keys. -/

namespace SlideDeck

/-- A value, or all that is wrong with the datum it was to be read from. -/
abbrev Checked := Except (List Violation)

namespace Checked

def and {α β : Type} : Checked α → Checked β → Checked (α × β)
  | .ok a, .ok b => .ok (a, b)
  | .ok _, .error w => .error w
  | .error v, .ok _ => .error v
  | .error v, .error w => .error (v ++ w)

def fail {α : Type} (path : Path) (rule : Rule) : Checked α := .error [{ path, rule }]

end Checked

namespace Settings

def checkText (path : Path) : Datum → Checked CodeText
  | .scalar (.text value) => .ok value
  | .scalar (.bytes value) =>
    match Text.decodeUtf8 value with
    | some text => .ok (.ofChars text)
    | none => .fail path .encodedText
  | _ => .fail path .text

def checkTextOrNull (path : Path) : Datum → Checked (Option CodeText)
  | .scalar .null => .ok none
  | datum => (checkText path datum).map some

def checkItems {α : Type} (check : Path → Datum → Checked α) (path : Path) :
    Nat → List Datum → Checked (List α)
  | _, [] => .ok []
  | i, item :: rest =>
    ((check (path ++ [.index i]) item).and (checkItems check path (i + 1) rest)).map fun (x, xs) => x :: xs

def checkList {α : Type} (check : Path → Datum → Checked α) (path : Path) : Datum → Checked (List α)
  | .sequence items => checkItems check path 0 items
  | .set items => checkItems check path 0 (items.map .scalar)
  | _ => .fail path .list

def checkField {α : Type} (entries : List (Scalar × Datum)) (path : Path) (name : String) (default : α)
    (check : Path → Datum → Checked α) : Checked α :=
  match Datum.lookup name entries with
  | some datum => check (path ++ [.field name]) datum
  | none => .ok default

def checkRequired {α : Type} (entries : List (Scalar × Datum)) (path : Path) (name : String)
    (check : Path → Datum → Checked α) : Checked α :=
  match Datum.lookup name entries with
  | some datum => check (path ++ [.field name]) datum
  | none => .fail (path ++ [.field name]) .required

/-- A package line; keys that it does not declare are ignored. -/
def checkPackage (path : Path) : Datum → Checked PackageLine
  | .mapping entries =>
    ((checkRequired entries path "name" checkText).and
      ((checkField entries path "options" [] (checkList checkText)).and
        (checkField entries path "comment" none checkTextOrNull))).map
      fun (name, options, comment?) => { name, options, comment? }
  | _ => .fail path (.mapping "PackageConfig")

def fieldNames : List String :=
  ["document_class", "class_options", "indent", "packages", "code_package_comment"]

def integerBound : Int := 0x8000000000000000

def maxDigits : Nat := 4300

def writeInteger (n : Int) : String :=
  if n.natAbs < Binary64.tenPow maxDigits then toString n else "<unprintable int object>"

/-- Where a key that is no text is reported: by its number if that is a 64-bit integer, else written
out. -/
def keyStep (key : Scalar) : PathStep :=
  match key with
  | .bool value => .index (if value then 1 else 0)
  | .int value =>
    if -integerBound ≤ value ∧ value < integerBound then .index value else .field (writeInteger value)
  | _ => .field key.write

def keyViolation? (key : Scalar) : Option Violation :=
  match key with
  | .text name =>
    if name.shown ∈ fieldNames then none else some { path := [.field name.shown], rule := .declared }
  | _ => some { path := [keyStep key], rule := .textKey }

/-- Whether a key holds half of a surrogate pair. Nothing else is reported of a mapping with such a key. -/
def hasBrokenKey (entries : List (Scalar × Datum)) : Bool :=
  entries.any fun entry =>
    match entry.1 with
    | .text name => name.holdsHalf
    | _ => false

def checkKeys (entries : List (Scalar × Datum)) : Checked Unit :=
  match entries.filterMap fun entry => keyViolation? entry.1 with
  | [] => .ok ()
  | violations => .error violations

def checkEntries (entries : List (Scalar × Datum)) : Checked Settings :=
  let default : Settings := {}
  ((checkField entries [] "document_class" default.documentClass checkText).and
    ((checkField entries [] "class_options" default.classOptions (checkList checkText)).and
      ((checkField entries [] "indent" default.indent checkText).and
        ((checkField entries [] "packages" default.packages (checkList checkPackage)).and
          ((checkField entries [] "code_package_comment" default.codeComment?
            checkTextOrNull).and (checkKeys entries)))))).map
    fun (documentClass, classOptions, indent, packages, codeComment?, _) =>
      { documentClass, classOptions, indent, packages, codeComment? }

def check : Datum → Checked Settings
  | .mapping entries => if hasBrokenKey entries then .fail [] .encodedText else checkEntries entries
  | _ => .fail [] (.mapping "BeamerConfig")

end Settings

end SlideDeck
