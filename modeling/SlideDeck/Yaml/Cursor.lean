import SlideDeck.Yaml.Source

/-! A place in a text, with the line and column that indentation is read from. Lines end in a line feed, a
next line character or a line or paragraph separator. -/

namespace SlideDeck.Yaml

def isBreak (c : Char) : Bool := c == '\n' || c == '\x85' || c == '\u2028' || c == '\u2029'

def byteOrderMark : Char := '\uFEFF'

def isNameChar (c : Char) : Bool := c.isAlphanum || c == '-' || c == '_'

def isHexDigit (c : Char) : Bool := c.isDigit || ('a' ≤ c && c ≤ 'f') || ('A' ≤ c && c ≤ 'F')

def hexDigitValue (c : Char) : Nat :=
  if c.isDigit then c.toNat - 0x30 else if 'a' ≤ c then c.toNat - 0x61 + 10 else c.toNat - 0x41 + 10

def hexValue (digits : List Char) : Nat := digits.foldl (fun n c => n * 16 + hexDigitValue c) 0

structure Cursor where
  rest : List Char
  fault? : Option Fault := none
  size : Nat
  index : Nat := 0
  line : Nat := 0
  column : Nat := 0
  deriving Repr, DecidableEq

namespace Cursor

def ofSource (s : Source) : Cursor := { rest := s.text, fault? := s.fault?, size := s.text.length }

/-- The number of characters that are left. It bounds the steps of any loop that moves on. -/
def left (c : Cursor) : Nat := c.size - c.index

/-- Fails at the fault behind the text if it lies among the next characters. -/
def need (c : Cursor) (count : Nat) : Except Fault Unit :=
  match c.fault? with
  | none => .ok ()
  | some fault => if (c.rest.drop (count - 1)).isEmpty then .error fault else .ok ()

def next (c : Cursor) : Cursor :=
  match c.rest with
  | [] => c
  | ch :: rest =>
    if isBreak ch then { c with rest, index := c.index + 1, line := c.line + 1, column := 0 }
    else if ch = byteOrderMark then { c with rest, index := c.index + 1 }
    else { c with rest, index := c.index + 1, column := c.column + 1 }

def skip (c : Cursor) : Nat → Cursor
  | 0 => c
  | n + 1 => c.next.skip n

def peek? (c : Cursor) : Option Char := c.rest.head?

def peekAt? (c : Cursor) (n : Nat) : Option Char := c.rest[n]?

def span (c : Cursor) (p : Char → Bool) : List Char × Cursor :=
  let run := c.rest.takeWhile p
  (run, c.skip run.length)

def skipWhile (c : Cursor) (p : Char → Bool) : Cursor := (c.span p).2

def skipSpaces (c : Cursor) : Cursor := c.skipWhile (· == ' ')

def skipComment (c : Cursor) : Cursor :=
  if c.peek? = some '#' then c.skipWhile (!isBreak ·) else c

def takeBreak? (c : Cursor) : Option (Char × Cursor) :=
  match c.peek? with
  | some ch =>
    if ch = '\n' ∨ ch = '\x85' then some ('\n', c.next)
    else if isBreak ch then some (ch, c.next)
    else none
  | none => none

end Cursor

def endsLine : Option Char → Bool
  | none => true
  | some c => isBreak c

def endsWord : Option Char → Bool
  | some ' ' => true
  | c => endsLine c

def endsToken : Option Char → Bool
  | some '\t' => true
  | c => endsWord c

def Cursor.atSeparator (c : Cursor) : Except Fault Bool := do
  c.need 3
  match c.rest with
  | '-' :: '-' :: '-' :: rest | '.' :: '.' :: '.' :: rest =>
    c.need 4
    return endsToken rest.head?
  | _ => return false

end SlideDeck.Yaml
