import ReportDelivery.Numeric.Binary64

/-! The shortest decimal text that reads back as the same binary number.

For one, two, … seventeen digits the two neighbours of the value on that decimal grid are read
back, the nearer one first and the even one first on a tie; the first that gives the number again
wins. A grid that has any point reading back as the number has such a neighbour, so the digits
are as few as can be. -/
namespace ReportDelivery.Binary64

/-- `digits * 10 ^ exponent`. -/
structure Decimal where
  digits : Nat
  exponent : Int

/-- Whether magnitude `k` is at least `10 ^ exponent`. -/
def reaches (k : Nat) (exponent : Int) : Bool :=
  (ratio k).2 * tenTo exponent.toNat ≤ (ratio k).1 * tenTo (-exponent).toNat

/-- The exponent of the leading decimal digit of magnitude `k`, which is not zero. The power of two
just below the magnitude has this exponent or the one before it. -/
def leadingExponent (k : Nat) : Int :=
  let low := ((ratio k).1.log2 - 1074 : Int) * 30103 / 100000
  if reaches k (low + 1) then low + 1 else low

/-- The two neighbours of magnitude `k` among the decimals of `n` digits, better one first. -/
def neighbours (k n : Nat) : List Decimal :=
  let exponent := leadingExponent k - n + 1
  let num := (ratio k).1 * tenTo (-exponent).toNat
  let den := (ratio k).2 * tenTo exponent.toNat
  let low := num / den
  let rest := num % den
  if 2 * rest < den || (2 * rest == den && low % 2 == 0) then
    [⟨low, exponent⟩, ⟨low + 1, exponent⟩]
  else
    [⟨low + 1, exponent⟩, ⟨low, exponent⟩]

def Decimal.readsAs (d : Decimal) (k : Nat) : Bool :=
  ofDecimal false d.digits d.exponent == ofMagnitude false k

/-- Every digit of magnitude `k`. -/
def exact (k : Nat) : Decimal := ⟨(ratio k).1 * fiveTo 1074, -1074⟩

def shortest (k : Nat) : Decimal :=
  ((List.range 17).findSome? fun n => (neighbours k (n + 1)).find? (·.readsAs k)).getD (exact k)

/-! ### Layout -/

def zeros (n : Nat) : Text := List.replicate n (.char '0')

/-- Digits, of which the leading one has the given exponent. A point stands after that digit's place
when the exponent is from -4 to 15; other numbers have one digit before the point and an exponent
of at least two digits. -/
def layOut (digits : Text) (exponent : Int) : Text :=
  if -4 ≤ exponent ∧ exponent < 0 then
    "0." ++ zeros (-exponent - 1).toNat ++ digits
  else if 0 ≤ exponent ∧ exponent < 16 then
    let places := exponent.toNat + 1
    if digits.length ≤ places then digits ++ zeros (places - digits.length) ++ ".0"
    else Text.join "." [digits.take places, digits.drop places]
  else
    let mantissa : Text :=
      if digits.length = 1 then digits else Text.join "." [digits.take 1, digits.drop 1]
    let sign : Text := if exponent < 0 then "e-" else "e+"
    let magnitude := Text.ofNat exponent.natAbs
    mantissa ++ sign ++ zeros (2 - magnitude.length) ++ magnitude

/-- The digits without the zeros at their end. -/
def Decimal.layout (d : Decimal) : Text :=
  let all := Text.ofNat d.digits
  let digits : Text := match Text.trimEnd (· = .char '0') all with
    | [] => "0"
    | kept => kept
  layOut digits (d.exponent + all.length - 1)

/-- The text of a finite number; its sign is written also for zero. -/
def finiteText (negative : Bool) (k : Nat) : Text :=
  let magnitude : Text := if k = 0 then "0.0" else (shortest k).layout
  if negative then "-" ++ magnitude else magnitude

def text : Binary64 → Text
  | .nan => "nan"
  | .infinity negative => if negative then "-inf" else "inf"
  | .finite negative k _ => finiteText negative k

end ReportDelivery.Binary64
