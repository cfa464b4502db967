import SlideDeck.Number.Binary64
import SlideDeck.Text.Blank
import SlideDeck.Text.DecimalDigit
import SlideDeck.Yaml.Fault
import SlideDeck.Yaml.Tag

/-! Integers and floats as they are written, in bases two, eight, ten and sixteen and in parts of sixty. -/

namespace SlideDeck.Yaml.Number

def isBlank (c : Char) : Bool := Text.isBlank c && !(0x1C ≤ c.toNat && c.toNat ≤ 0x1F)

def trim (text : List Char) : List Char :=
  ((text.dropWhile isBlank).reverse.dropWhile isBlank).reverse

def takeSign : List Char → Bool × List Char
  | '-' :: rest => (true, rest)
  | '+' :: rest => (false, rest)
  | text => (false, text)

def digitValue? (c : Char) : Option Nat :=
  match Text.digitValue? c with
  | some n => some n
  | none =>
    if 'a' ≤ c ∧ c ≤ 'z' then some (c.toNat - 0x61 + 10)
    else if 'A' ≤ c ∧ c ≤ 'Z' then some (c.toNat - 0x41 + 10)
    else none

def readDigits? (base : Nat) (digits : List Char) : Option Nat :=
  if digits = [] then none
  else digits.foldlM (fun n c => do
    let d ← digitValue? c
    if d < base then some (n * base + d) else none) 0

def dropBaseMark (base : Nat) : List Char → List Char
  | '0' :: c :: rest =>
    if (base = 2 ∧ (c = 'b' ∨ c = 'B')) ∨ (base = 8 ∧ (c = 'o' ∨ c = 'O')) ∨
      (base = 16 ∧ (c = 'x' ∨ c = 'X')) then rest else '0' :: c :: rest
  | text => text

def maxDigits : Nat := 4300

def readInt (base : Nat) (text : List Char) : Except Fault Int :=
  let (negative, digits) := takeSign (trim text)
  let digits := dropBaseMark base digits
  match readDigits? base digits with
  | none => .error .number
  | some n =>
    if base = 10 ∧ digits.length > maxDigits then .error .number
    else .ok (if negative then -(n : Int) else n)

def joinSixties (parts : List Int) : Int := parts.foldl (fun n part => n * 60 + part) 0

def dropUnderscores (text : List Char) : List Char := text.filter (· ≠ '_')

def int (text : List Char) : Except Fault Int := do
  let text := dropUnderscores text
  if text = [] then .error .emptyNumber
  else
    let (negative, text) := takeSign text
    let n ← match text with
      | [] => Except.error .emptyNumber
      | ['0'] => pure 0
      | '0' :: 'b' :: rest => readInt 2 rest
      | '0' :: 'x' :: rest => readInt 16 rest
      | '0' :: rest => readInt 8 ('0' :: rest)
      | text =>
        if ':' ∈ text then joinSixties <$> (splitColons text).mapM (readInt 10)
        else readInt 10 text
    .ok (if negative then -n else n)

def lower (c : Char) : Char := if 'A' ≤ c ∧ c ≤ 'Z' then Char.ofNat (c.toNat + 32) else c

def readDecimal? (text : List Char) : Option (Nat × Int) := do
  let isDigit (c : Char) := (Text.digitValue? c).isSome
  let value (digits : List Char) := digits.foldl (fun n c => n * 10 + (Text.digitValue? c).getD 0) 0
  let whole := text.takeWhile isDigit
  let (fraction, rest) := match text.dropWhile isDigit with
    | '.' :: rest => (rest.takeWhile isDigit, rest.dropWhile isDigit)
    | rest => ([], rest)
  if whole = [] ∧ fraction = [] then none
  else
    let shift : Int := fraction.length
    match rest with
    | [] => some (value (whole ++ fraction), -shift)
    | e :: rest =>
      if lower e ≠ 'e' then none
      else
        let (negative, digits) := takeSign rest
        if digits = [] ∨ digits.any (!isDigit ·) then none
        else
          let power : Int := value digits
          some (value (whole ++ fraction), (if negative then -power else power) - shift)

def readFloat (text : List Char) : Except Fault Binary64 :=
  let (negative, text) := takeSign (trim text)
  if isWord ["inf", "infinity"] (text.map lower) then .ok (.infinity negative)
  else if isWord ["nan"] (text.map lower) then .ok .nan
  else
    match readDecimal? text with
    | some (digits, power) => .ok (Binary64.ofDecimal negative digits power)
    | none => .error .number

/-- Adds up parts of sixty from the last one, with the power of sixty that the next part counts. -/
def addSixties : (power : Nat) → (sum : Binary64) → List Binary64 → Except Fault Binary64
  | _, sum, [] => .ok sum
  | power, sum, part :: rest =>
    match Binary64.ofNat power with
    | .infinity _ => .error .tooLarge
    | factor => addSixties (power * 60) (sum.add (part.mul factor)) rest

def floatParts (text : List Char) : Bool × List Char := takeSign ((dropUnderscores text).map lower)

def isNanWord (text : List Char) : Bool := isWord [".nan"] (floatParts text).2

def float (text : List Char) : Except Fault Binary64 := do
  if dropUnderscores text = [] then .error .emptyNumber
  else
    let (negative, text) := floatParts text
    let signed (x : Binary64) := if negative then x.negate else x
    if isWord [".inf"] text then .ok (.infinity negative)
    else if isWord [".nan"] text then .ok .nan
    else if ':' ∈ text then
      let parts ← (splitColons text).mapM readFloat
      signed <$> addSixties 1 .zero parts.reverse
    else signed <$> readFloat text

end SlideDeck.Yaml.Number
