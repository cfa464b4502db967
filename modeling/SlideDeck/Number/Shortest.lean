import SlideDeck.Number.Binary64

/-! The shortest decimal that reads back as a given number, and of those the nearest one. -/

namespace SlideDeck.Binary64

structure Decimal where
  digits : Nat
  point : Int
  deriving Repr, DecidableEq

/-- The reals that round to a positive finite number, in quarters of its unit. The ends belong to them if
the mantissa is even. -/
structure Interval where
  low : Nat
  high : Nat
  closed : Bool

def interval (mantissa : Nat) (exponent : Int) : Interval where
  low := if mantissa = twoPow 52 ∧ exponent > minExponent then 4 * mantissa - 1 else 4 * mantissa - 2
  high := 4 * mantissa + 2
  closed := mantissa % 2 = 0

def quarters (n : Nat) (exponent : Int) : Nat × Nat :=
  (n * twoPow (exponent - 2).toNat, twoPow (2 - exponent).toNat)

def Interval.contains (i : Interval) (exponent : Int) (digits : Nat) (power : Int) : Bool :=
  let (n, d) := (digits * tenPow power.toNat, tenPow (-power).toNat)
  let (low, u) := quarters i.low exponent
  let (high, _) := quarters i.high exponent
  if i.closed then low * d ≤ n * u && n * u ≤ high * d else low * d < n * u && n * u < high * d

def pointOf (mantissa : Nat) (exponent : Int) : Int :=
  let n := mantissa * twoPow exponent.toNat * tenPow 400 / twoPow (-exponent).toNat
  (Nat.toDigits 10 n).length - 400

/-- The nearer of the two neighbours on the grid of `count` digits that round to the number, if any does;
a tie goes to the even one. -/
def onGrid (mantissa : Nat) (exponent point : Int) (count : Nat) : Option Nat :=
  let power := point - count
  let (n, d) := (mantissa * twoPow exponent.toNat * tenPow (-power).toNat,
    twoPow (-exponent).toNat * tenPow power.toNat)
  let below := n / d
  let i := interval mantissa exponent
  let nearest := divideEven n d
  let other := if nearest = below then below + 1 else below
  if i.contains exponent nearest power then some nearest
  else if i.contains exponent other power then some other
  else none

def dropZeros : (fuel : Nat) → Nat → Nat
  | 0, n => n
  | fuel + 1, n => if n % 10 = 0 then dropZeros fuel (n / 10) else n

def shortest (mantissa : Nat) (exponent : Int) : Decimal :=
  let point := pointOf mantissa exponent
  match (List.range' 1 17).findSome? fun count =>
      (onGrid mantissa exponent point count).map fun digits => (count, digits) with
  | none => { digits := mantissa, point }
  | some (count, digits) =>
    { digits := dropZeros count digits, point := if digits = tenPow count then point + 1 else point }

def Decimal.write (x : Decimal) : String :=
  let digits := Nat.toDigits 10 x.digits
  let zeros (n : Nat) := List.replicate n '0'
  if -4 < x.point ∧ x.point ≤ 16 then
    String.ofList <|
      if x.point ≤ 0 then '0' :: '.' :: zeros (-x.point).toNat ++ digits
      else
        let whole := x.point.toNat
        if digits.length ≤ whole then digits ++ zeros (whole - digits.length) ++ ['.', '0']
        else digits.take whole ++ '.' :: digits.drop whole
  else
    let power := x.point - 1
    let fraction := match digits.drop 1 with
      | [] => []
      | rest => '.' :: rest
    let places := Nat.toDigits 10 power.natAbs
    String.ofList <|
      digits.take 1 ++ fraction ++ 'e' :: (if power < 0 then '-' else '+') ::
        zeros (2 - places.length) ++ places

def write : Binary64 → String
  | .nan => "nan"
  | .infinity negative => if negative then "-inf" else "inf"
  | .finite negative mantissa exponent =>
    (if negative then "-" else "") ++
      if mantissa = 0 then "0.0" else (shortest mantissa exponent).write

end SlideDeck.Binary64
