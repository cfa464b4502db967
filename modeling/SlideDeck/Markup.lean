/-! Light markup of running text: three dots become an ellipsis command, and text between two equal
delimiters becomes the argument of a font command. -/

namespace SlideDeck.Markup

structure Delimiter where
  mark : Char
  command : List Char

def italic : Delimiter where
  mark := '/'
  command := "\\textit".toList

def monospace : Delimiter where
  mark := '|'
  command := "\\texttt".toList

namespace Delimiter

def wrap (d : Delimiter) (body : List Char) : List Char :=
  d.command ++ '\x7b' :: body ++ ['\x7d']

/-- Reads from left to right. The first argument is `some body` after a mark that may still open a pair,
with the characters read since then, latest first; a mark right after a mark opens anew, and one that is
never closed stays as it is. -/
def scan (d : Delimiter) : Option (List Char) → List Char → List Char
  | none, [] => []
  | none, c :: rest => if c = d.mark then d.scan (some []) rest else c :: d.scan none rest
  | some body, [] => d.mark :: body.reverse
  | some body, c :: rest =>
    if c = d.mark then
      if body = [] then c :: d.scan (some []) rest else d.wrap body.reverse ++ d.scan none rest
    else d.scan (some (c :: body)) rest

def apply (d : Delimiter) (text : List Char) : List Char := d.scan none text

end Delimiter

def ellipsis : List Char := "\\ldots\x7b\x7d".toList

def ellipses : List Char → List Char
  | '.' :: '.' :: '.' :: rest => ellipsis ++ ellipses rest
  | c :: rest => c :: ellipses rest
  | [] => []

def translateChars (text : List Char) : List Char :=
  monospace.apply (italic.apply (ellipses text))

end SlideDeck.Markup

namespace SlideDeck

def translate (text : String) : String := String.ofList (Markup.translateChars text.toList)

end SlideDeck
