import SlideDeck.Yaml.Token.Name
import SlideDeck.Yaml.Token.Scalar

/-! A document as tokens. The indentation of lines opens and closes block collections. A key of a mapping is
known only by the colon after it, so each place where a key may begin is remembered, and the token of the
key is put in there when its colon is found. -/

namespace SlideDeck.Yaml

/-- A place where a key may have begun: the token that it would start with, and where that is. A key is
required where a collection is open at its column. -/
structure KeyPlace where
  token : Nat
  required : Bool
  index : Nat
  line : Nat
  column : Nat
  deriving Repr, DecidableEq

def KeyPlace.isStale (k : KeyPlace) (c : Cursor) : Bool := k.line != c.line || c.index - k.index > 1024

/-- The places of possible keys are kept for each depth of brackets. -/
structure Lexer where
  cursor : Cursor
  depth : Nat := 0
  indent : Int := -1
  indents : List Int := []
  tokens : Array Token := #[]
  keyAllowed : Bool := true
  keys : List (Nat × KeyPlace) := []
  deriving Repr

namespace Lexer

def inFlow (l : Lexer) : Bool := l.depth != 0

def push (l : Lexer) (t : Token) : Lexer := { l with tokens := l.tokens.push t }

def insertAt (l : Lexer) (place : Nat) (t : Token) : Lexer :=
  { l with tokens := l.tokens.extract 0 place ++ #[t] ++ l.tokens.extract place l.tokens.size }

def allowKey (l : Lexer) (keyAllowed : Bool) : Lexer := { l with keyAllowed }

def pushScan (l : Lexer) (scan : Scan Token) : Except Fault Lexer := do
  let (t, cursor) ← scan.run l.cursor
  return { l.push t with cursor }

def moveTo (l : Lexer) (cursor : Cursor) : Except Fault Lexer := do
  cursor.need 1
  return { l with cursor }

def skip (l : Lexer) (n : Nat) : Except Fault Lexer := l.moveTo (l.cursor.skip n)

def dropStaleKeys (l : Lexer) : Except Fault Lexer :=
  if l.keys.any fun (_, k) => k.isStale l.cursor && k.required then .error .malformed
  else .ok { l with keys := l.keys.filter fun (_, k) => !k.isStale l.cursor }

def dropKey (l : Lexer) : Except Fault Lexer :=
  match l.keys.lookup l.depth with
  | some k => if k.required then .error .malformed else .ok dropped
  | none => .ok dropped
where
  dropped : Lexer := { l with keys := l.keys.filter (·.1 ≠ l.depth) }

def saveKey (l : Lexer) : Except Fault Lexer := do
  if l.keyAllowed then
    let required := !l.inFlow && l.indent == l.cursor.column
    let c := l.cursor
    let l ← l.dropKey
    let k : KeyPlace :=
      { token := l.tokens.size, required, index := c.index, line := c.line, column := c.column }
    return { l with keys := (l.depth, k) :: l.keys }
  else return l

def unwind (column : Int) : List Int → Lexer → Lexer
  | [], l => l
  | outer :: rest, l =>
    if l.indent > column then
      unwind column rest { l.push .blockEnd with indent := outer, indents := rest }
    else l

def unwindTo (l : Lexer) (column : Int) : Lexer :=
  if l.inFlow then l else unwind column l.indents l

def indentTo (l : Lexer) (column : Nat) (place : Nat) (start : Token) : Lexer :=
  if !l.inFlow ∧ l.indent < column then
    { l.insertAt place start with indent := column, indents := l.indent :: l.indents }
  else l

def skipBlanks : (fuel : Nat) → Lexer → Lexer
  | 0, l => l
  | fuel + 1, l =>
    let c := l.cursor.skipSpaces.skipComment
    match c.takeBreak? with
    | some (_, c) => skipBlanks fuel { l with cursor := c, keyAllowed := l.keyAllowed || !l.inFlow }
    | none => { l with cursor := c }

def skipMark (l : Lexer) : Except Fault Lexer :=
  if l.cursor.index = 0 ∧ l.cursor.peek? = some byteOrderMark then l.skip 1 else .ok l

def separator (l : Lexer) (t : Token) : Except Fault Lexer := do
  let l ← (l.unwindTo (-1)).dropKey
  ((l.allowKey false).push t).skip 3

def directive (l : Lexer) : Except Fault Lexer := do
  let l ← (l.unwindTo (-1)).dropKey
  (l.allowKey false).pushScan Scan.directive

def flowStart (l : Lexer) (t : Token) : Except Fault Lexer := do
  let l ← l.saveKey
  ({ l with depth := l.depth + 1, keyAllowed := true }.push t).skip 1

def flowEnd (l : Lexer) (t : Token) : Except Fault Lexer := do
  let l ← l.dropKey
  ({ l with depth := l.depth - 1, keyAllowed := false }.push t).skip 1

def flowEntry (l : Lexer) : Except Fault Lexer := do
  let l ← (l.allowKey true).dropKey
  (l.push .flowEntry).skip 1

def blockEntry (l : Lexer) : Except Fault Lexer := do
  if !l.inFlow && !l.keyAllowed then .error .malformed
  else
    let l := l.indentTo l.cursor.column l.tokens.size .blockSequenceStart
    let l ← (l.allowKey true).dropKey
    (l.push .blockEntry).skip 1

def key (l : Lexer) : Except Fault Lexer := do
  if !l.inFlow && !l.keyAllowed then .error .malformed
  else
    let l := l.indentTo l.cursor.column l.tokens.size .blockMappingStart
    let l ← (l.allowKey !l.inFlow).dropKey
    (l.push .key).skip 1

/-- The colon after a key. If a place for the key is remembered, its token and the start of a mapping are put
in there. -/
def value (l : Lexer) : Except Fault Lexer := do
  let l ← match l.keys.lookup l.depth with
    | some k =>
      let l := { l with keys := l.keys.filter (·.1 ≠ l.depth) }
      let l := (l.insertAt k.token .key).indentTo k.column k.token .blockMappingStart
      pure (l.allowKey false)
    | none =>
      if !l.inFlow && !l.keyAllowed then Except.error .malformed
      else
        let l := l.indentTo l.cursor.column l.tokens.size .blockMappingStart
        (l.allowKey !l.inFlow).dropKey
  (l.push .value).skip 1

def keyLike (l : Lexer) (scan : Scan Token) : Except Fault Lexer := do
  (((← l.saveKey).allowKey false)).pushScan scan

def block (l : Lexer) (folded : Bool) : Except Fault Lexer := do
  let l ← (l.allowKey true).dropKey
  l.pushScan (Scan.blockScalar l.indent folded)

def plain (l : Lexer) : Except Fault Lexer := do
  let l ← l.saveKey
  let scan := Scan.plainParts l.inFlow (l.indent + 1) (l.cursor.left + 1) [] false
  let ((text, broken), cursor) ← scan.run l.cursor
  return { l.push (.scalar (.ofChars text) true) with cursor, keyAllowed := broken }

def indicators : List Char := "-?:,[]\x7b\x7d#&*!|>\x27\"%@\x60".toList

def isIndicator (c : Char) : Bool := endsToken (some c) || indicators.contains c

def startsPlain (inFlow : Bool) (c : Char) (next : Option Char) : Bool :=
  !isIndicator c || (!endsToken next && (c == '-' || (!inFlow && (c == '?' || c == ':'))))

def streamEnd (l : Lexer) : Except Fault Lexer := do
  let l ← (l.unwindTo (-1)).dropKey
  return l.push .streamEnd

def atSeparator (l : Lexer) (ch : Char) : Except Fault Bool :=
  if l.cursor.column = 0 ∧ l.cursor.peek? = some ch then l.cursor.atSeparator else .ok false

/-- Signs whose meaning hangs on the character after them. Inside of brackets the sign of a key and the colon
have one meaning only. -/
def needsNext (l : Lexer) (ch : Char) : Bool := ch == '-' || (!l.inFlow && (ch == '?' || ch == ':'))

def token (l : Lexer) (ch : Char) : Except Fault Lexer := do
  if l.cursor.column = 0 ∧ ch = '%' then l.directive
  else if ← l.atSeparator '-' then l.separator .documentStart
  else if ← l.atSeparator '.' then l.separator .documentEnd
  else
    l.cursor.need (if l.needsNext ch then 2 else 1)
    let next := l.cursor.peekAt? 1
    if ch = '[' then l.flowStart .flowSequenceStart
    else if ch = '\x7b' then l.flowStart .flowMappingStart
    else if ch = ']' then l.flowEnd .flowSequenceEnd
    else if ch = '\x7d' then l.flowEnd .flowMappingEnd
    else if ch = ',' then l.flowEntry
    else if ch = '-' ∧ endsToken next then l.blockEntry
    else if ch = '?' ∧ (l.inFlow ∨ endsToken next) then l.key
    else if ch = ':' ∧ (l.inFlow ∨ endsToken next) then l.value
    else if ch = '*' then l.keyLike (Token.alias <$> Scan.anchorName)
    else if ch = '&' then l.keyLike (Token.anchor <$> Scan.anchorName)
    else if ch = '!' then l.keyLike Scan.tag
    else if ch = '|' ∧ !l.inFlow then l.block false
    else if ch = '>' ∧ !l.inFlow then l.block true
    else if ch = '\x27' ∨ ch = '"' then l.keyLike (Scan.quotedScalar ch)
    else
      l.cursor.need (if isIndicator ch then 2 else 1)
      if startsPlain l.inFlow ch next then l.plain else .error .malformed

def settled (l : Lexer) : List Token :=
  let places := l.keys.filterMap fun (_, k) => if k.isStale l.cursor then none else some k.token
  l.tokens.toList.take (places.foldl min l.tokens.size)

/-- Passes over what stands before a token and reads that. Places become stale on the way to the token and
in it. -/
def step (l : Lexer) : Except Fault Lexer := do
  let l ← l.skipMark
  let l := skipBlanks (l.cursor.left + 1) l
  l.cursor.need 1
  let l ← l.dropStaleKeys
  let l := l.unwindTo l.cursor.column
  match l.cursor.peek? with
  | none => l.streamEnd
  | some ch => (← l.token ch).dropStaleKeys

/-- Reads on to the end, or to a fault. The tokens that are settled before a fault are kept. -/
def run : (fuel : Nat) → Lexer → List Token × Option Fault
  | 0, l => (l.tokens.toList, some .malformed)
  | fuel + 1, l =>
    match l.step with
    | .error fault => (l.settled, some fault)
    | .ok l => if l.tokens.back? = some .streamEnd then (l.tokens.toList, none) else run fuel l

end Lexer

def tokenize (source : Source) : List Token × Option Fault :=
  Lexer.run (source.text.length + 1) { cursor := .ofSource source }

end SlideDeck.Yaml
