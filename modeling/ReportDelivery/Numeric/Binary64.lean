import ReportDelivery.Text.Basic

/-! Binary floating point numbers of 64 bits, and the nearest one to a decimal number.

The finite magnitudes are numbered in ascending order: magnitude `k` is the number whose exponent
and fraction bits are those of `k`, so neighbours are one apart and the numbers from `2 ^ 52 * e`
to `2 ^ 52 * (e + 1)` share one spacing. Nothing is computed in hardware floats. -/
namespace ReportDelivery

def twoTo (n : Nat) : Nat := Nat.pow 2 n

def fiveTo (n : Nat) : Nat := Nat.pow 5 n

def tenTo (n : Nat) : Nat := Nat.pow 10 n

/-- One more than the greatest finite magnitude; as a bit pattern it is infinity. -/
def magnitudeLimit : Nat := 0x7FF0000000000000

inductive Binary64 where
  | nan
  | infinity (negative : Bool)
  | finite (negative : Bool) (magnitude : Nat) (isLt : magnitude < magnitudeLimit)
deriving DecidableEq

namespace Binary64

/-- The nearest integer to `num / den`; a half goes to the even neighbour. -/
def roundHalfEven (num den : Nat) : Nat :=
  let quotient := num / den
  let rest := num % den
  if 2 * rest < den || (2 * rest == den && quotient % 2 == 0) then quotient else quotient + 1

/-- The number of the magnitude nearest to `num / den`, without an upper limit. In units of the
least positive magnitude `2 ^ -1074` the ratio has spacing `2 ^ s`, where `s` is how far its
binary length exceeds 53. -/
def nearestMagnitude (num den : Nat) : Nat :=
  let s := (num * twoTo 1074 / den).log2 - 52
  s * twoTo 52 + roundHalfEven (num * twoTo 1074) (den * twoTo s)

def ofMagnitude (negative : Bool) (k : Nat) : Binary64 :=
  if h : k < magnitudeLimit then .finite negative k h else .infinity negative

/-- The number nearest to `num / den`. -/
def ofRatio (negative : Bool) (num den : Nat) : Binary64 :=
  ofMagnitude negative (nearestMagnitude num den)

/-- The number nearest to `significand * 10 ^ exponent`. A factor of ten is more than three binary
digits and less than four, so numbers far past every finite one, or far below half the least one,
are settled by binary length alone. -/
def ofDecimal (negative : Bool) (significand : Nat) (exponent : Int) : Binary64 :=
  if significand = 0 then ofMagnitude negative 0
  else
    let size : Int := significand.log2
    if 1024 ≤ size + min (3 * exponent) (4 * exponent) then .infinity negative
    else if size + 1 + max (3 * exponent) (4 * exponent) ≤ -1075 then ofMagnitude negative 0
    else ofRatio negative (significand * tenTo exponent.toNat) (tenTo (-exponent).toNat)

/-! ### The value of a finite number -/

/-- Magnitude `k` is `significand k * 2 ^ (spacing k - 1074)`. -/
def spacing (k : Nat) : Nat := k / twoTo 52 - 1

def significand (k : Nat) : Nat := k - spacing k * twoTo 52

/-- Numerator and denominator of magnitude `k`. -/
def ratio (k : Nat) : Nat × Nat := (significand k * twoTo (spacing k), twoTo 1074)

/-- The whole part of magnitude `k`. -/
def whole (k : Nat) : Nat := (ratio k).1 / (ratio k).2

def isZero : Binary64 → Bool
  | .finite _ k _ => k == 0
  | _ => false

/-- The integer equal to this number, if there is one. -/
def toInt? : Binary64 → Option Int
  | .finite negative k _ =>
    if (ratio k).1 % (ratio k).2 = 0 then
      some (if negative then -(whole k : Int) else whole k)
    else none
  | _ => none

/-- Equality of values: the two zeros are one value. -/
def sameValue : Binary64 → Binary64 → Bool
  | .nan, .nan => true
  | .infinity s, .infinity t => s == t
  | .finite s k _, .finite t l _ => k == l && (s == t || k == 0)
  | _, _ => false

end Binary64
end ReportDelivery
