import SlideDeck.Text.CodeText
import SlideDeck.Text.Printable

/-! Quoted text. Single quotes are used unless the text holds one and no double quote; the quote in use and
the backslash are escaped, and characters that do not print and halves of surrogate pairs are written by their
code point. -/

namespace SlideDeck.Text

def hexDigits : (width : Nat) → (n : Nat) → List Char
  | 0, _ => []
  | width + 1, n => hexDigits width (n / 16) ++ [Nat.digitChar (n % 16)]

def escapeCode (n : Nat) : List Char :=
  if n < 0x100 then '\\' :: 'x' :: hexDigits 2 n
  else if n < 0x10000 then '\\' :: 'u' :: hexDigits 4 n
  else '\\' :: 'U' :: hexDigits 8 n

def quoteChar (mark c : Char) : List Char :=
  if c = mark ∨ c = '\\' then ['\\', c]
  else if c = '\n' then ['\\', 'n']
  else if c = '\r' then ['\\', 'r']
  else if c = '\t' then ['\\', 't']
  else if isPrintable c then [c]
  else escapeCode c.toNat

def quoteMark (text : List Char) : Char :=
  if '\x27' ∈ text ∧ '"' ∉ text then '"' else '\x27'

def quotePoint (mark : Char) : CodePoint → List Char
  | .char c => quoteChar mark c
  | .half n => escapeCode n

def quotePoints (points : List CodePoint) : List Char :=
  let mark := quoteMark (points.map CodePoint.toChar)
  mark :: points.flatMap (quotePoint mark) ++ [mark]

def quote (text : CodeText) : String := String.ofList (quotePoints text.points)

def quote? : Option CodeText → String
  | none => "None"
  | some text => quote text

def bracketList (items : List String) : String := "[" ++ ", ".intercalate items ++ "]"

def quoteList (texts : List CodeText) : String := bracketList (texts.map quote)

end SlideDeck.Text
