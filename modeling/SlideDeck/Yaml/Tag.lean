import SlideDeck.Yaml.Timestamp

/-! Types of nodes, and which type a plain text has by its form. -/

namespace SlideDeck.Yaml

inductive Tag where
  | null
  | bool
  | int
  | float
  | binary
  | timestamp
  | omap
  | pairs
  | set
  | str
  | seq
  | map
  | merge
  | value
  | unknown
  deriving Repr, DecidableEq

namespace Tag

def space : String := "tag:yaml.org,2002:"

def named : List (String × Tag) :=
  [("null", null), ("bool", bool), ("int", int), ("float", float), ("binary", binary),
    ("timestamp", timestamp), ("omap", omap), ("pairs", pairs), ("set", set), ("str", str), ("seq", seq),
    ("map", map), ("merge", merge), ("value", value)]

def ofAddress (address : String) : Tag :=
  ((named.find? fun entry => space ++ entry.1 == address).map (·.2)).getD unknown

end Tag

def dropSign : List Char → List Char
  | '-' :: rest => rest
  | '+' :: rest => rest
  | text => text

def isDigits : List Char → Bool
  | [] => false
  | c :: rest => c.isDigit && rest.all fun c => c.isDigit || c == '_'

def isDigitsOrEmpty (text : List Char) : Bool := text.all fun c => c.isDigit || c == '_'

def splitColons : List Char → List (List Char)
  | [] => [[]]
  | c :: rest =>
    if c = ':' then [] :: splitColons rest
    else
      match splitColons rest with
      | part :: parts => (c :: part) :: parts
      | [] => [[c]]

def isSixtieth : List Char → Bool
  | [c] => c.isDigit
  | [b, c] => '0' ≤ b && b ≤ '5' && c.isDigit
  | _ => false

def isInt (text : List Char) : Bool :=
  match dropSign text with
  | '0' :: 'b' :: rest => rest ≠ [] && rest.all fun c => c == '0' || c == '1' || c == '_'
  | '0' :: 'x' :: rest => rest ≠ [] && rest.all fun c =>
      c.isDigit || ('a' ≤ c && c ≤ 'f') || ('A' ≤ c && c ≤ 'F') || c == '_'
  | '0' :: rest => rest.all fun c => ('0' ≤ c && c ≤ '7') || c == '_'
  | text =>
    match splitColons text with
    | first :: rest => isDigits first && rest.all isSixtieth
    | [] => false

def isExponent : List Char → Bool
  | [] => true
  | e :: sign :: digits =>
    (e == 'e' || e == 'E') && (sign == '-' || sign == '+') && digits ≠ [] && digits.all Char.isDigit
  | _ => false

def isFraction (text : List Char) : Bool :=
  isExponent (text.dropWhile fun c => c.isDigit || c == '_')

def isFloat (text : List Char) : Bool :=
  let unsigned := dropSign text
  let whole := unsigned.takeWhile (· ≠ '.')
  let rest := unsigned.dropWhile (· ≠ '.')
  match rest with
  | '.' :: fraction =>
    (isDigits whole && isFraction fraction) ||
    (match splitColons whole with
      | first :: second :: parts =>
        isDigits first && (second :: parts).all isSixtieth && isDigitsOrEmpty fraction
      | _ => false) ||
    (whole = [] && [".inf", ".Inf", ".INF"].any (·.toList = rest)) ||
    (text = rest &&
      (([".nan", ".NaN", ".NAN"].any (·.toList = rest)) ||
        (fraction.head?.any Char.isDigit && isFraction fraction)))
  | _ => false

def boolWords : List String :=
  ["yes", "Yes", "YES", "no", "No", "NO", "true", "True", "TRUE", "false", "False", "FALSE", "on", "On",
    "ON", "off", "Off", "OFF"]

def nullWords : List String := ["~", "null", "Null", "NULL", ""]

def signWords : List String := ["!", "&", "*"]

def isWord (words : List String) (text : List Char) : Bool := words.any (·.toList = text)

/-- A line feed at the end of a text does not count for its form. -/
def dropLastBreak (text : List Char) : List Char :=
  match text.reverse with
  | '\n' :: c :: rest => (c :: rest).reverse
  | _ => text

def implicitTag (text : List Char) : Tag :=
  let text := dropLastBreak text
  if isWord boolWords text then .bool
  else if isFloat text then .float
  else if isInt text then .int
  else if isWord ["<<"] text then .merge
  else if isWord nullWords text then .null
  else if Timestamp.isImplicit text then .timestamp
  else if isWord ["="] text then .value
  else if isWord signWords text then .unknown
  else .str

end SlideDeck.Yaml
