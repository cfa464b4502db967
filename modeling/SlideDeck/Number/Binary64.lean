/-! Numbers of 64-bit binary floating point, computed exactly on naturals. A finite number is
`mantissa * 2 ^ exponent`. Rounding goes to the nearest number, a tie to the even mantissa. -/

namespace SlideDeck

inductive Binary64 where
  | nan
  | infinity (negative : Bool)
  | finite (negative : Bool) (mantissa : Nat) (exponent : Int)
  deriving Repr, DecidableEq

namespace Binary64

def minExponent : Int := -1074

def maxExponent : Int := 971

def twoPow (n : Nat) : Nat := Nat.pow 2 n

def tenPow (n : Nat) : Nat := Nat.pow 10 n

def divideEven (numerator denominator : Nat) : Nat :=
  let q := numerator / denominator
  let r := numerator % denominator
  if 2 * r > denominator ∨ (2 * r = denominator ∧ q % 2 = 1) then q + 1 else q

def scaled (numerator denominator : Nat) (exponent : Int) : Nat × Nat :=
  (numerator * twoPow (-exponent).toNat, denominator * twoPow exponent.toNat)

def gridExponent (numerator denominator : Nat) : Int :=
  let estimate : Int := (Nat.log2 numerator : Int) - (Nat.log2 denominator : Int) - 52
  let (n, d) := scaled numerator denominator estimate
  max minExponent (if n / d < twoPow 52 then estimate - 1 else estimate)

def ofRatio (negative : Bool) (numerator denominator : Nat) : Binary64 :=
  if numerator = 0 then .finite negative 0 minExponent
  else
    let exponent := gridExponent numerator denominator
    let (n, d) := scaled numerator denominator exponent
    let mantissa := divideEven n d
    let (mantissa, exponent) :=
      if mantissa = twoPow 53 then (twoPow 52, exponent + 1) else (mantissa, exponent)
    if exponent > maxExponent then .infinity negative else .finite negative mantissa exponent

def zero : Binary64 := .finite false 0 minExponent

/-- The number nearest to `± digits * 10 ^ exponent`. Far outside the range no power of ten is computed. -/
def ofDecimal (negative : Bool) (digits : Nat) (exponent : Int) : Binary64 :=
  let magnitude : Int := (Nat.toDigits 10 digits).length + exponent
  if digits = 0 ∨ magnitude < -400 then .finite negative 0 minExponent
  else if magnitude > 400 then .infinity negative
  else ofRatio negative (digits * tenPow exponent.toNat) (tenPow (-exponent).toNat)

def ofNat (n : Nat) : Binary64 := ofRatio false n 1

def negate : Binary64 → Binary64
  | .nan => .nan
  | .infinity negative => .infinity !negative
  | .finite negative mantissa exponent => .finite (!negative) mantissa exponent

def toRatio (negative : Bool) (mantissa : Nat) (exponent : Int) : Int × Nat :=
  let n : Int := mantissa * twoPow exponent.toNat
  (if negative then -n else n, twoPow (-exponent).toNat)

def add : Binary64 → Binary64 → Binary64
  | .nan, _ | _, .nan => .nan
  | .infinity a, .infinity b => if a = b then .infinity a else .nan
  | .infinity a, .finite _ _ _ => .infinity a
  | .finite _ _ _, .infinity b => .infinity b
  | .finite a m e, .finite b n f =>
    let (x, d) := toRatio a m e
    let (y, d') := toRatio b n f
    let sum := x * d' + y * d
    if sum = 0 then .finite (a && b) 0 minExponent else ofRatio (sum < 0) sum.natAbs (d * d')

def mul : Binary64 → Binary64 → Binary64
  | .nan, _ | _, .nan => .nan
  | .infinity a, .infinity b => .infinity (a != b)
  | .infinity a, .finite b m _ => if m = 0 then .nan else .infinity (a != b)
  | .finite a m _, .infinity b => if m = 0 then .nan else .infinity (a != b)
  | .finite a m e, .finite b n f =>
    let (x, d) := toRatio a m e
    let (y, d') := toRatio b n f
    ofRatio (a != b) (x * y).natAbs (d * d')

def isZero : Binary64 → Bool
  | .finite _ m _ => m == 0
  | _ => false

def toInt? : Binary64 → Option Int
  | .finite negative mantissa exponent =>
    let (n, d) := toRatio negative mantissa exponent
    if n % d = 0 then some (n / d) else none
  | _ => none

end Binary64

end SlideDeck
