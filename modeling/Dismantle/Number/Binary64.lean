import Dismantle.Number.Power
/-! Floating point numbers of 64 bits as exact values: a sign, a whole number below `2 ^ 53` and a
power of two. Every other number is read as the nearest of them. -/
namespace Dismantle

/-- A finite number is `mantissa * 2 ^ power`; the sign of a zero is kept. -/
inductive Binary64 where
  | nan
  | infinite (negative : Bool)
  | finite (negative : Bool) (mantissa : Nat) (power : Int)
  deriving DecidableEq, Repr

namespace Binary64

/-- The quotient rounded to the nearest whole number, a half to the even one. -/
def roundDiv (num den : Nat) : Nat :=
  let q := num / den
  let r := num % den
  if 2 * r < den then q
  else if den < 2 * r then q + 1
  else if q % 2 = 0 then q else q + 1

/-- The quotient `num / den` in units of `2 ^ power`, as a fraction. -/
def inUnits (num den : Nat) (power : Int) : Nat × Nat :=
  if 0 ≤ power then (num, den * twoTo power.toNat) else (num * twoTo (-power).toNat, den)

/-- The power of two whose units give the quotient 53 bits, or the least power there is. -/
def unitPower (num den : Nat) : Int :=
  let guess : Int := (num.log2 : Int) - (den.log2 : Int) - 52
  let (n, d) := inUnits num den guess
  let exact := if n < d * twoTo 52 then guess - 1 else guess
  max exact (-1074)

def zero (negative : Bool) : Binary64 := .finite negative 0 (-1074)

/-- The number nearest to `num / den`; ties go to the even mantissa. -/
def ofRatio (negative : Bool) (num den : Nat) : Binary64 :=
  if num = 0 then zero negative
  else
    let power := unitPower num den
    let (n, d) := inUnits num den power
    let m := roundDiv n d
    let (m, power) := if m = twoTo 53 then (twoTo 52, power + 1) else (m, power)
    if 971 < power then .infinite negative else .finite negative m power

/-- The number nearest to `mantissa * 10 ^ exponent`. Beyond 400 places on either side of the
point nothing but infinity and zero is left. -/
def ofDecimal (negative : Bool) (mantissa : Nat) (exponent : Int) : Binary64 :=
  let places : Int := (Nat.toDigits 10 mantissa).length + exponent
  if mantissa = 0 then zero negative
  else if 400 < places then .infinite negative
  else if places < -400 then zero negative
  else if 0 ≤ exponent then ofRatio negative (mantissa * tenTo exponent.toNat) 1
  else ofRatio negative mantissa (tenTo (-exponent).toNat)

def ofInt (i : Int) : Binary64 := ofRatio (i < 0) i.natAbs 1

def magnitude (m : Nat) (power : Int) : Nat × Nat :=
  if 0 ≤ power then (m * twoTo power.toNat, 1) else (m, twoTo (-power).toNat)

/-- The whole number that a number is equal to, if there is one. -/
def toInt? : Binary64 → Option Int
  | .finite negative m power =>
    let (n, d) := magnitude m power
    if n % d = 0 then some (if negative then -((n / d : Nat) : Int) else (n / d : Nat)) else none
  | _ => none

def isFinite : Binary64 → Bool
  | .finite .. => true
  | _ => false

/-- The whole part, towards zero. -/
def truncate? : Binary64 → Option Int
  | .finite negative m power =>
    let (n, d) := magnitude m power
    some (if negative then -((n / d : Nat) : Int) else (n / d : Nat))
  | _ => none

/-- Both zeros are equal, and a number that is none is equal to nothing. -/
def equal : Binary64 → Binary64 → Bool
  | .finite s m p, .finite s' m' p' => (m = 0 ∧ m' = 0) ∨ (s = s' ∧ m = m' ∧ p = p')
  | .infinite s, .infinite s' => s == s'
  | _, _ => false

/-- A value in units of `2 ^ -1074`, which all finite numbers are whole multiples of. -/
def units : Binary64 → Int
  | .finite negative m power =>
    let n : Nat := m * twoTo (power + 1074).toNat
    if negative then -(n : Int) else n
  | _ => 0

/-- The finite number nearest to a whole number of units; an exact zero is positive. -/
def ofUnits (u : Int) : Binary64 := ofRatio (u < 0) u.natAbs (twoTo 1074)

/-- The sum of two finite numbers, rounded once. -/
def add (a b : Binary64) : Binary64 := ofUnits (a.units + b.units)

/-- The product with a whole number below `2 ^ 53`, rounded once. -/
def scale (a : Binary64) (k : Nat) : Binary64 :=
  match a with
  | .finite negative m power =>
    let (n, d) := magnitude m power
    ofRatio negative (n * k) d
  | other => other

end Binary64
end Dismantle
