import SlideDeck.Text.Utf8
import SlideDeck.Yaml.Token.Basic

/-! Directives, anchors, aliases and tags. -/

namespace SlideDeck.Yaml.Scan

def isUriChar (c : Char) : Bool :=
  c.isAlphanum || "-;/?:@&=+$,_.!~*\x27()[]%".toList.contains c

def uriBytes : (fuel : Nat) → Scan (List UInt8)
  | 0 => return []
  | fuel + 1 => do
    if (← peek) ≠ some '%' then return []
    else
      skip 1
      let digits ← peekHexDigits 2
      skip 2
      return UInt8.ofNat (hexValue digits) :: (← uriBytes fuel)

/-- Characters that stand for themselves, and runs of bytes that together encode characters. -/
def uriChars : (fuel : Nat) → Scan (List Char)
  | 0 => return []
  | fuel + 1 => do
    let run ← span fun ch => isUriChar ch && ch != '%'
    if (← peek) = some '%' then
      match Text.decodeUtf8 (← uriBytes (← Scan.fuel)) with
      | some text => return run ++ text ++ (← uriChars fuel)
      | none => malformed
    else return run

def uri : Scan String := do
  let start := (← get).index
  let chars ← uriChars (← fuel)
  if (← get).index = start then malformed else return String.ofList chars

def tagHandle : Scan String := do
  if (← peek) ≠ some '!' then malformed
  else
    skip 1
    if (← peek) = some ' ' then return "!"
    else
      let name ← span isNameChar
      expect (· = some '!')
      skip 1
      return String.ofList ('!' :: name ++ ['!'])

def hasHandle : Scan Bool := do
  let length := ((← get).rest.drop 1 |>.takeWhile fun ch => ch != ' ' && ch != '!' && !isBreak ch).length
  return (← peekAt (length + 1)) = some '!'

def tag : Scan Token := do
  let token ←
    match ← peekAt 1 with
    | some '<' =>
      skip 2
      let suffix ← uri
      expect (· = some '>')
      skip 1
      pure (Token.tag none suffix)
    | next =>
      if endsToken next then
        skip 1
        pure (Token.tag none "!")
      else if ← hasHandle then
        let handle ← tagHandle
        pure (Token.tag (some handle) (← uri))
      else
        skip 1
        pure (Token.tag (some "!") (← uri))
  expect endsWord
  return token

def anchorName : Scan String := do
  skip 1
  let name ← span isNameChar
  if name = [] then malformed
  else
    expect fun next => endsToken next || next.any fun ch => "?:,]\x7d%@\x60".toList.contains ch
    return String.ofList name

def versionNumber : Scan Nat := do
  let digits ← span Char.isDigit
  if digits = [] then malformed
  else if digits.length > 4300 then fail .number
  else return digits.foldl (fun n ch => n * 10 + (ch.toNat - 0x30)) 0

def version : Scan Token := do
  skipSpaces
  let major ← versionNumber
  expect (· = some '.')
  skip 1
  let _ ← versionNumber
  expect endsWord
  return .version major

def handleDirective : Scan Token := do
  skipSpaces
  let handle ← tagHandle
  expect (· = some ' ')
  skipSpaces
  let address ← uri
  expect endsWord
  return .tagHandle handle address

def directive : Scan Token := do
  skip 1
  let name ← span isNameChar
  if name = [] then malformed
  else
    expect endsWord
    let token ←
      match String.ofList name with
      | "YAML" => version
      | "TAG" => handleDirective
      | _ => do
        skipWhile (!isBreak ·)
        pure Token.reserved
    lineEnd
    return token

end SlideDeck.Yaml.Scan
