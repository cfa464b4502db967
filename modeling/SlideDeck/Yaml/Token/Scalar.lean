import SlideDeck.Yaml.Token.Basic

/-! Scalars: blocks of lines, quoted texts and plain texts. -/

namespace SlideDeck.Yaml.Scan

inductive Chomping where
  | strip
  | clip
  | keep
  deriving Repr, DecidableEq

structure BlockHeader where
  chomping : Chomping
  increment? : Option Nat

def chomping? : Option Char → Option Chomping
  | some '+' => some .keep
  | some '-' => some .strip
  | _ => none

def takeChomping : Scan (Option Chomping) := do
  match chomping? (← peek) with
  | some chomping =>
    skip 1
    return some chomping
  | none => return none

def takeIncrement : Scan (Option Nat) := do
  match ← peek with
  | some ch =>
    if ch = '0' then malformed
    else if ch.isDigit then
      skip 1
      return some (ch.toNat - 0x30)
    else return none
  | none => return none

def blockHeader : Scan BlockHeader := do
  let header ← match ← takeChomping with
    | some chomping => pure { chomping, increment? := ← takeIncrement : BlockHeader }
    | none =>
      match ← takeIncrement with
      | some increment =>
        pure { chomping := (← takeChomping).getD .clip, increment? := some increment }
      | none => pure { chomping := .clip, increment? := none }
  expect endsWord
  lineEnd
  return header

def leadingBreaks : (fuel widest : Nat) → Scan (List Char × Nat)
  | 0, widest => return ([], widest)
  | fuel + 1, widest => do
    match ← peek with
    | some ' ' =>
      skip 1
      leadingBreaks fuel (max widest (← get).column)
    | _ =>
      match ← takeBreak with
      | [] => return ([], widest)
      | br =>
        let (breaks, widest) ← leadingBreaks fuel widest
        return (br ++ breaks, widest)

def indentTo (column : Nat) : Scan Unit := do
  let c ← get
  let spaces := (c.rest.take (column - c.column)).takeWhile (· == ' ')
  skip spaces.length

def innerBreaks (column : Nat) : (fuel : Nat) → Scan (List Char)
  | 0 => return []
  | fuel + 1 => do
    indentTo column
    match ← takeBreak with
    | [] => return []
    | br => return br ++ (← innerBreaks column fuel)

def isBlankChar : Option Char → Bool
  | some c => c == ' ' || c == '\t'
  | none => false

/-- The lines of a block from a line on, with the empty lines before it. In a folded block a single line break
between two lines that do not start with a blank becomes a space, and one before empty lines is dropped. -/
def blockLines (folded : Bool) (chomping : Chomping) (column : Nat) :
    (fuel : Nat) → (breaks : List Char) → Scan (List Char)
  | 0, breaks => return breaks
  | fuel + 1, breaks => do
    let startsBlank := isBlankChar (← peek)
    let line ← span (!isBreak ·)
    let br ← takeBreak
    let after ← innerBreaks column (← Scan.fuel)
    let c ← get
    if c.column = column ∧ c.peek?.isSome then
      let joint :=
        if folded ∧ br = ['\n'] ∧ !startsBlank ∧ !isBlankChar c.peek? then
          if after = [] then [' '] else []
        else br
      return breaks ++ line ++ joint ++ (← blockLines folded chomping column fuel after)
    else
      return breaks ++ line ++ match chomping with
        | .strip => []
        | .clip => br
        | .keep => br ++ after

def blockScalar (indent : Int) (folded : Bool) : Scan Token := do
  skip 1
  let header ← blockHeader
  let least := (max (indent + 1) 1).toNat
  let (breaks, column) ← match header.increment? with
    | none =>
      let (breaks, widest) ← leadingBreaks (← fuel) 0
      pure (breaks, max least widest)
    | some increment =>
      let column := least + increment - 1
      pure (← innerBreaks column (← fuel), column)
  let c ← get
  let text ←
    if c.column = column ∧ c.peek?.isSome then blockLines folded header.chomping column (← fuel) breaks
    else pure (if header.chomping = .keep then breaks else [])
  return .scalar (.ofChars text) false

def escaped? : Char → Option Char
  | '0' => some '\x00'
  | 'a' => some '\x07'
  | 'b' => some '\x08'
  | 't' | '\t' => some '\t'
  | 'n' => some '\n'
  | 'v' => some '\x0B'
  | 'f' => some '\x0C'
  | 'r' => some '\r'
  | 'e' => some '\x1B'
  | ' ' => some ' '
  | '"' => some '"'
  | '\\' => some '\\'
  | '/' => some '/'
  | 'N' => some '\x85'
  | '_' => some '\xA0'
  | 'L' => some '\u2028'
  | 'P' => some '\u2029'
  | _ => none

def escapeWidth? : Char → Option Nat
  | 'x' => some 2
  | 'u' => some 4
  | 'U' => some 8
  | _ => none

def codePoint (n : Nat) : Scan CodePoint :=
  if n ≥ 0x80000000 then fail .tooLarge
  else if n ≥ 0x110000 then fail .number
  else return .ofNat n

def codePoints (text : List Char) : List CodePoint := text.map .char

def quotedBreaks : (fuel : Nat) → Scan (List Char)
  | 0 => return []
  | fuel + 1 => do
    if ← (← get).atSeparator then malformed
    else
      skipWhile fun ch => ch == ' ' || ch == '\t'
      match ← takeBreak with
      | [] => return []
      | br => return br ++ (← quotedBreaks fuel)

def quotedBlanks : Scan (List Char) := do
  let blanks ← span fun ch => ch == ' ' || ch == '\t'
  if (← peek).isNone then malformed
  else
    match ← takeBreak with
    | [] => return blanks
    | br =>
      let breaks ← quotedBreaks (← fuel)
      return (if br ≠ ['\n'] then br else if breaks = [] then [' '] else []) ++ breaks

def escape : Scan (List CodePoint) := do
  match ← peek with
  | none => malformed
  | some ch =>
    match escaped? ch, escapeWidth? ch with
    | some c, _ =>
      skip 1
      return [.char c]
    | none, some width =>
      skip 1
      let digits ← peekHexDigits width
      let point ← codePoint (hexValue digits)
      skip width
      return [point]
    | none, none =>
      if isBreak ch then
        let _ ← takeBreak
        return codePoints (← quotedBreaks (← fuel))
      else malformed

def quotedPart (mark : Char) : Scan (Option (List CodePoint)) := do
  match ← peek with
  | some ch =>
    if ch = mark ∧ mark = '\x27' then
      if (← peekAt 1) = some mark then
        skip 2
        return some [.char mark]
      else return none
    else if ch = mark then return none
    else if ch = '\\' ∧ mark = '"' then
      skip 1
      return some (← escape)
    else if ch = ' ' ∨ ch = '\t' ∨ isBreak ch then return some (codePoints (← quotedBlanks))
    else
      skip 1
      return some [.char ch]
  | none => malformed

def quotedParts (mark : Char) : (fuel : Nat) → Scan (List CodePoint)
  | 0 => malformed
  | fuel + 1 => do
    let run ← span fun ch =>
      !(ch == '\x27' || ch == '"' || ch == '\\' || ch == ' ' || ch == '\t' || isBreak ch)
    match ← quotedPart mark with
    | some part => return codePoints run ++ part ++ (← quotedParts mark fuel)
    | none =>
      skip 1
      return codePoints run

def quotedScalar (mark : Char) : Scan Token := do
  skip 1
  return .scalar ⟨← quotedParts mark (← fuel)⟩ false

/-- Whether a plain text ends before the next character: at a blank, at a colon before a blank, and inside
brackets at their signs. -/
def endsPlain (inFlow : Bool) (c next : Option Char) : Bool :=
  endsToken c ||
    (c == some ':' &&
      (endsToken next || (inFlow && next.any fun ch => ",[]\x7b\x7d".toList.contains ch))) ||
    (inFlow && c.any fun ch => ",?[]\x7b\x7d".toList.contains ch)

def plainLength (inFlow : Bool) : List Char → Nat
  | [] => 0
  | c :: rest => if endsPlain inFlow (some c) rest.head? then 0 else plainLength inFlow rest + 1

def plainBreaks : (fuel : Nat) → Scan (Option (List Char))
  | 0 => return none
  | fuel + 1 => do
    if ← (← get).atSeparator then return none
    else
      skipSpaces
      match ← takeBreak with
      | [] => return some []
      | br => return (← plainBreaks fuel).map (br ++ ·)

/-- How many characters of a plain text come next. The character after them is needed, and the one after a
colon. -/
def plainRun (inFlow : Bool) : Scan Nat := do
  let c ← get
  let length := if c.peek? = some '#' then 0 else plainLength inFlow c.rest
  if c.peek? ≠ some '#' ∧ (← peekAt length) = some ':' then need (length + 2)
  return length

def plainBlanks : Scan (List Char × Bool) := do
  let spaces ← span (· == ' ')
  match ← takeBreak with
  | [] => return (spaces, false)
  | br =>
    match ← plainBreaks (← fuel) with
    | none => return ([], true)
    | some breaks =>
      return ((if br ≠ ['\n'] then br else if breaks = [] then [' '] else []) ++ breaks, true)

def plainParts (inFlow : Bool) (indent : Int) : (fuel : Nat) → (blanks : List Char) → (broken : Bool) →
    Scan (List Char × Bool)
  | 0, _, broken => return ([], broken)
  | fuel + 1, blanks, broken => do
    let c ← get
    let length ← plainRun inFlow
    if length = 0 then return ([], broken)
    else
      skip length
      let part := blanks ++ c.rest.take length
      let (blanks, broken) ← plainBlanks
      let d ← get
      if blanks = [] ∨ d.peek? = some '#' ∨ (!inFlow ∧ (d.column : Int) < indent) then
        return (part, broken)
      else
        let (rest, broken) ← plainParts inFlow indent fuel blanks broken
        return (part ++ rest, broken)

end SlideDeck.Yaml.Scan
