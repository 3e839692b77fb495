import Dismantle.Number.Shortest
/-! How numbers are written: floating point numbers with their shortest digits, positional from
`10 ^ -4` up to `10 ^ 16` and with an exponent beyond, or with a given number of places. -/
namespace Dismantle.Binary64

def zeros (n : Nat) : List Char := List.replicate n '0'

/-- A decimal in positions, with at least one digit on both sides of the point. -/
def positional (d : Decimal) : List Char :=
  if d.point ≤ 0 then '0' :: '.' :: zeros (-d.point).toNat ++ d.digits
  else
    let p := d.point.toNat
    let whole := d.digits.take p ++ zeros (p - d.digits.length)
    let rest := d.digits.drop p
    whole ++ '.' :: (if rest.isEmpty then ['0'] else rest)

/-- An exponent with its sign and at least two digits. -/
def exponentText (e : Int) : List Char :=
  let ds := Nat.toDigits 10 e.natAbs
  (if e < 0 then '-' else '+') :: (if ds.length < 2 then '0' :: ds else ds)

def scientific (d : Decimal) : List Char :=
  let head := d.digits.take 1
  let rest := d.digits.drop 1
  head ++ (if rest.isEmpty then [] else '.' :: rest) ++ 'e' :: exponentText (d.point - 1)

def signed (negative : Bool) (cs : List Char) : List Char := if negative then '-' :: cs else cs

def text : Binary64 → String
  | .nan => "nan"
  | .infinite negative => .ofList (signed negative ['i', 'n', 'f'])
  | .finite negative m power =>
    let body :=
      if m = 0 then ['0', '.', '0']
      else
        let d := shortest m power
        if -4 < d.point ∧ d.point ≤ 16 then positional d else scientific d
    .ofList (signed negative body)

/-- Inserts the point before the last `places` digits. A point that nothing follows is left out
unless it is to be `kept`. -/
def withPoint (kept : Bool) (places : Nat) (ds : List Char) : List Char :=
  let ds := zeros (places + 1 - ds.length) ++ ds
  let whole := ds.take (ds.length - places)
  if places = 0 ∧ !kept then whole else whole ++ '.' :: ds.drop (ds.length - places)

/-- A finite absolute value with a fixed number of places, a half going to the even digit. -/
def fixed (kept : Bool) (m : Nat) (power : Int) (places : Nat) : List Char :=
  let (n, d) := magnitude m power
  withPoint kept places (Nat.toDigits 10 (roundDiv (n * tenTo places) d))

/-- The first `count` digits of a finite absolute value, rounded, and its exponent. -/
def leading (m : Nat) (power : Int) (count : Nat) : List Char × Int :=
  if m = 0 then (zeros count, 0)
  else
    let (n, d) := magnitude m power
    let point := pointPlace n d
    let e := point - count
    let (gn, gd) := gridPoint 1 e
    let ds := Nat.toDigits 10 (roundDiv (n * gd) (d * gn))
    if count < ds.length then (ds.take count, point) else (ds, point - 1)

/-- Digits with an exponent, `places` of them behind the point. -/
def withExponent (kept : Bool) (m : Nat) (power : Int) (places : Nat) : List Char :=
  let (ds, e) := leading m power (places + 1)
  withPoint kept places ds ++ 'e' :: exponentText e

/-- Digits without the zeros at the end of their fraction, and without a point that ends them. -/
def dropZeros (cs : List Char) : List Char :=
  if '.' ∈ cs then
    let cs := (cs.reverse.dropWhile (· = '0')).reverse
    if cs.getLast? = some '.' then cs.dropLast else cs
  else cs

/-- `count` significant digits, positional when the exponent is at least `-4` and below `count`.
Zeros at the end of the fraction are left out unless they are to be `kept`. -/
def general (kept : Bool) (m : Nat) (power : Int) (count : Nat) : List Char :=
  let count := max count 1
  let (ds, e) := leading m power count
  let trim := if kept then id else dropZeros
  if -4 ≤ e ∧ e < count then trim (fixed kept m power ((count : Int) - 1 - e).toNat)
  else trim (withPoint kept (count - 1) ds) ++ 'e' :: exponentText e

end Dismantle.Binary64
