import SlideDeck.Text.CodeText
import SlideDeck.Yaml.Cursor

namespace SlideDeck.Yaml

/-- The smallest parts of a document. Those that start and end block collections are put in where the
indentation opens and closes them. -/
inductive Token where
  | version (major : Nat)
  | tagHandle (handle uri : String)
  | reserved
  | documentStart
  | documentEnd
  | blockSequenceStart
  | blockMappingStart
  | blockEnd
  | flowSequenceStart
  | flowSequenceEnd
  | flowMappingStart
  | flowMappingEnd
  | blockEntry
  | flowEntry
  | key
  | value
  | alias (name : String)
  | anchor (name : String)
  | tag (handle? : Option String) (suffix : String)
  | scalar (text : CodeText) (plain : Bool)
  | streamEnd
  deriving Repr, DecidableEq

abbrev Scan := StateT Cursor (Except Fault)

namespace Scan

def fail {α : Type} (fault : Fault) : Scan α := throw fault

def malformed {α : Type} : Scan α := fail .malformed

def need (count : Nat) : Scan Unit := do (← get).need count

def moveTo (c : Cursor) : Scan Unit := do
  set c
  need 1

def peek : Scan (Option Char) := do return (← get).peek?

def peekAt (n : Nat) : Scan (Option Char) := do
  need (n + 1)
  return (← get).peekAt? n

def skip (n : Nat) : Scan Unit := do moveTo ((← get).skip n)

def span (p : Char → Bool) : Scan (List Char) := do
  let (run, c) := (← get).span p
  moveTo c
  return run

def skipWhile (p : Char → Bool) : Scan Unit := do moveTo ((← get).skipWhile p)

def skipSpaces : Scan Unit := do moveTo (← get).skipSpaces

def takeBreak : Scan (List Char) := do
  match (← get).takeBreak? with
  | some (ch, c) =>
    moveTo c
    return [ch]
  | none => return []

def peekHexDigits (count : Nat) : Scan (List Char) := do
  let digits := ((← get).rest.take count).takeWhile isHexDigit
  if digits.length = count then return digits
  else
    need (digits.length + 1)
    malformed

def expect (p : Option Char → Bool) : Scan Unit := do
  if p (← peek) then return else malformed

def lineEnd : Scan Unit := do
  moveTo (← get).skipSpaces.skipComment
  expect endsLine
  skip 1

def fuel : Scan Nat := do return (← get).left + 1

end Scan

end SlideDeck.Yaml
