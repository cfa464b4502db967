import SlideDeck.Yaml.Graph.Reading

/-! A document is read by descent. Each step down or along is paid by a token, so that a few steps for each
token suffice. -/

namespace SlideDeck.Yaml.Read

abbrev Stop := Token → Bool

def isItemStop (indentless : Bool) : Stop
  | .blockEntry | .blockEnd => true
  | .key | .value => indentless
  | _ => false

def isPairStop : Stop
  | .key | .value | .blockEnd => true
  | _ => false

def isFlowStop (closing : Token) : Stop := fun t => t = .flowEntry || t = closing

mutual

/-- A node, outside of brackets if `block`, and perhaps a sequence at the indentation of the mapping around
it. -/
def node (block indentless : Bool) : (fuel : Nat) → Read Nat
  | 0 => fail
  | fuel + 1 => do
    match ← peek with
    | .alias name =>
      skip
      anchored name
    | _ =>
      let p ← properties
      match ← peek with
      | .blockEntry => if indentless then sequence p (blockItems true fuel) else nameless p
      | .scalar text plain =>
        skip
        scalar p text plain
      | .flowSequenceStart =>
        skip
        sequence p (flowItems true fuel)
      | .flowMappingStart =>
        skip
        mapping p (flowPairs true fuel)
      | .blockSequenceStart =>
        if block then
          skip
          sequence p (blockItems false fuel)
        else nameless p
      | .blockMappingStart =>
        if block then
          skip
          mapping p (blockPairs fuel)
        else nameless p
      | _ => nameless p

def nodeUnless (stop : Stop) (block indentless : Bool) : (fuel : Nat) → Read Nat
  | 0 => fail
  | fuel + 1 => do
    if stop (← peek) then addEmpty else node block indentless fuel

/-- The items of a sequence outside of brackets. One that is not indented has no token at its end. -/
def blockItems (indentless : Bool) : (fuel : Nat) → Read (List Nat)
  | 0 => fail
  | fuel + 1 => do
    match ← peek with
    | .blockEntry =>
      skip
      let item ← nodeUnless (isItemStop indentless) true false fuel
      return item :: (← blockItems indentless fuel)
    | t =>
      if indentless then return []
      else if t = .blockEnd then
        skip
        return []
      else fail

def blockPairs : (fuel : Nat) → Read (List (Nat × Nat))
  | 0 => fail
  | fuel + 1 => do
    match ← peek with
    | .key =>
      skip
      let key ← nodeUnless isPairStop true true fuel
      let value ← valueUnless isPairStop true true fuel
      return (key, value) :: (← blockPairs fuel)
    | .blockEnd =>
      skip
      return []
    | _ => fail

def valueUnless (stop : Stop) (block indentless : Bool) : (fuel : Nat) → Read Nat
  | 0 => fail
  | fuel + 1 => do
    if (← peek) = .value then
      skip
      nodeUnless stop block indentless fuel
    else addEmpty

def flowItems (first : Bool) : (fuel : Nat) → Read (List Nat)
  | 0 => fail
  | fuel + 1 => do
    if (← peek) = .flowSequenceEnd then
      skip
      return []
    else
      if first then pure () else expect .flowEntry
      match ← peek with
      | .flowSequenceEnd =>
        skip
        return []
      | .key =>
        skip
        let item ← mapping {} (return [← flowPair .flowSequenceEnd fuel])
        return item :: (← flowItems false fuel)
      | _ =>
        let item ← node false false fuel
        return item :: (← flowItems false fuel)

def flowPair (closing : Token) : (fuel : Nat) → Read (Nat × Nat)
  | 0 => fail
  | fuel + 1 => do
    let stop := isFlowStop closing
    let key ← nodeUnless (fun t => t = .value || stop t) false false fuel
    let value ← valueUnless stop false false fuel
    return (key, value)

def flowPairs (first : Bool) : (fuel : Nat) → Read (List (Nat × Nat))
  | 0 => fail
  | fuel + 1 => do
    if (← peek) = .flowMappingEnd then
      skip
      return []
    else
      if first then pure () else expect .flowEntry
      match ← peek with
      | .flowMappingEnd =>
        skip
        return []
      | .key =>
        skip
        let pair ← flowPair .flowMappingEnd fuel
        return pair :: (← flowPairs false fuel)
      | _ =>
        let key ← node false false fuel
        let value ← addEmpty
        return (key, value) :: (← flowPairs false fuel)

end

def standardHandles : List (String × String) := [("!", "!"), ("!!", Tag.space)]

def directives : (fuel : Nat) → (versioned : Bool) → (handles : List (String × String)) →
    Read (List (String × String))
  | 0, _, handles => return handles
  | fuel + 1, versioned, handles => do
    match ← peek with
    | .version major =>
      skip
      if versioned || major != 1 then fail else directives fuel true handles
    | .tagHandle handle address =>
      skip
      if (handles.lookup handle).isSome then fail
      else directives fuel versioned ((handle, address) :: handles)
    | .reserved =>
      skip
      directives fuel versioned handles
    | _ => return handles

def skipDocumentEnds : (fuel : Nat) → Read Unit
  | 0 => return
  | fuel + 1 => do
    if (← peek) = .documentEnd then
      skip
      skipDocumentEnds fuel
    else return

def startsDocument : Token → Bool
  | .version _ | .tagHandle _ _ | .reserved | .documentStart => true
  | _ => false

def endsDocument (t : Token) : Bool := startsDocument t || t = .documentEnd || t = .streamEnd

def root (bound : Nat) : Read Nat := do
  let fuel := 4 * bound + 8
  if startsDocument (← peek) then
    let handles ← directives bound false []
    expect .documentStart
    modify fun r => { r with handles := handles ++ standardHandles }
    nodeUnless endsDocument true false fuel
  else
    modify fun r => { r with handles := standardHandles }
    node true false fuel

/-- The end of the text after its only document. What is wrong before the start of another document is met
before that one is. -/
def finish (bound : Nat) : Read Unit := do
  skipDocumentEnds bound
  if (← peek) = .streamEnd then return
  else
    let _ ← directives bound false []
    expect .documentStart
    fail

def document : Read (Option Nat) := do
  let bound := (← get).tokens.length + 1
  if (← peek) = .streamEnd then return none
  else
    let place ← root bound
    finish bound
    return some place

end SlideDeck.Yaml.Read

namespace SlideDeck.Yaml

def Graph.read (source : Source) : Except Fault (Graph × Option Nat) := do
  let (tokens, fault?) := tokenize source
  let (root?, reader) ← Read.document.run { tokens, fault? }
  return (reader.graph, root?)

end SlideDeck.Yaml
