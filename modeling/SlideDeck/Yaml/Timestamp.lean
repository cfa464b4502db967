import SlideDeck.Datum.Moment

/-! Points of time as they are written: a date, and after it a time of day, a fraction of a second and the
offset of a zone. -/

namespace SlideDeck.Yaml

structure Timestamp where
  date : Date
  padded : Bool
  time? : Option (Nat × Nat × Nat × Nat × Option Int)
  deriving Repr, DecidableEq

namespace Timestamp

def number (digits : List Char) : Nat := digits.foldl (fun n c => n * 10 + (c.toNat - '0'.toNat)) 0

def takeDigits (least most : Nat) (text : List Char) : Option (List Char × List Char) :=
  let digits := (text.take most).takeWhile Char.isDigit
  if digits.length < least then none else some (digits, text.drop digits.length)

def expect (c : Char) : List Char → Option (List Char)
  | d :: rest => if d = c then some rest else none
  | [] => none

def isBlank (c : Char) : Bool := c == ' ' || c == '\t'

def takeGap : List Char → Option (List Char)
  | 'T' :: rest => some rest
  | 't' :: rest => some rest
  | c :: rest => if isBlank c then some (rest.dropWhile isBlank) else none
  | [] => none

def takeFraction : List Char → Nat × List Char
  | '.' :: rest =>
    let digits := rest.takeWhile Char.isDigit
    (number ((digits ++ List.replicate 6 '0').take 6), rest.dropWhile Char.isDigit)
  | text => (0, text)

def takeZone (text : List Char) : Option (Option Int) :=
  if text = [] then some none
  else
    match text.dropWhile isBlank with
    | ['Z'] => some (some 0)
    | sign :: rest => do
      let negative ← if sign = '-' then some true else if sign = '+' then some false else none
      let (hours, rest) ← takeDigits 1 2 rest
      let minutes ←
        if rest = [] then some []
        else
          let (minutes, rest) ← takeDigits 2 2 (← expect ':' rest)
          if rest = [] then some minutes else none
      let offset : Int := number hours * 60 + number minutes
      some (some (if negative then -offset else offset))
    | [] => none

def takeTime (text : List Char) : Option (Nat × Nat × Nat × Nat × Option Int) := do
  let (hour, rest) ← takeDigits 1 2 (← takeGap text)
  let (minute, rest) ← takeDigits 2 2 (← expect ':' rest)
  let (second, rest) ← takeDigits 2 2 (← expect ':' rest)
  let (microsecond, rest) := takeFraction rest
  return (number hour, number minute, number second, microsecond, ← takeZone rest)

def read? (text : List Char) : Option Timestamp := do
  let (year, rest) ← takeDigits 4 4 text
  let (month, rest) ← takeDigits 1 2 (← expect '-' rest)
  let (day, rest) ← takeDigits 1 2 (← expect '-' rest)
  let time? ← if rest = [] then some none else (takeTime rest).map some
  return {
    date := { year := number year, month := number month, day := number day }
    padded := month.length = 2 && day.length = 2
    time? }

/-- Whether a plain text of this form is a point of time: a date alone must have all its digits. -/
def isImplicit (text : List Char) : Bool :=
  match read? text with
  | some stamp => stamp.padded || stamp.time?.isSome
  | none => false

end Timestamp

end SlideDeck.Yaml
