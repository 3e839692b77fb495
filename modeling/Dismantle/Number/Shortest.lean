import Dismantle.Number.Binary64
/-! The shortest decimal digits that read back as a number: of all decimals with the fewest digits
that round to it, the nearest one. -/
namespace Dismantle.Binary64

/-- Digits of a decimal and the place of its point: `digits * 10 ^ (point - digits.length)`. -/
structure Decimal where
  digits : List Char
  point : Int
  deriving DecidableEq, Repr

/-- The fractions between which everything rounds to `m * 2 ^ power`, and whether the ends do. -/
structure Neighbourhood where
  low : Nat × Nat
  high : Nat × Nat
  closed : Bool

/-- In quarters of a unit, so that both half ways are whole: below a power of two the unit of
the next smaller numbers is half as large. -/
def neighbourhood (m : Nat) (power : Int) : Neighbourhood :=
  let below := if m = twoTo 52 ∧ power > -1074 then 1 else 2
  ⟨magnitude (4 * m - below) (power - 2), magnitude (4 * m + 2) (power - 2), m % 2 = 0⟩

def Neighbourhood.has (h : Neighbourhood) (n d : Nat) : Bool :=
  let (ln, ld) := h.low
  let (hn, hd) := h.high
  if h.closed then ln * d ≤ n * ld ∧ n * hd ≤ hn * d else ln * d < n * ld ∧ n * hd < hn * d

/-- The place of the point of `n / d` written with a first digit that is not zero:
`10 ^ (p - 1) ≤ n / d < 10 ^ p`. -/
def pointPlace (n d : Nat) : Int :=
  let guess : Int := ((Nat.toDigits 10 n).length : Int) - (Nat.toDigits 10 d).length
  let reaches (p : Int) : Bool :=
    if 0 ≤ p then d * tenTo p.toNat ≤ n else d ≤ n * tenTo (-p).toNat
  if reaches guess then guess + 1 else guess

/-- A whole number of units `10 ^ e` as a fraction. -/
def gridPoint (k : Nat) (e : Int) : Nat × Nat :=
  if 0 ≤ e then (k * tenTo e.toNat, 1) else (k, tenTo (-e).toNat)

/-- The best decimal with units of `10 ^ e`, if one lies in the neighbourhood. -/
def onGrid (h : Neighbourhood) (n d : Nat) (e : Int) : Option Nat :=
  let (gn, gd) := gridPoint 1 e
  let k := n * gd / (d * gn)
  let fits (k : Nat) : Bool := let (a, b) := gridPoint k e; h.has a b
  let near := roundDiv (n * gd) (d * gn)
  if fits near then some near
  else if fits k then some k
  else if fits (k + 1) then some (k + 1)
  else none

def trimZeros (ds : List Char) : List Char :=
  match (ds.reverse.dropWhile (· = '0')).reverse with
  | [] => ['0']
  | ds => ds

/-- Tries grids of more and more digits; seventeen always suffice. -/
def firstGrid (h : Neighbourhood) (n d : Nat) (point : Int) : (count left : Nat) → Nat × Int
  | _, 0 => (0, 0)
  | count, left + 1 =>
    let e := point - count
    match onGrid h n d e with
    | some k => (k, e)
    | none => firstGrid h n d point (count + 1) left

/-- The shortest digits of a finite number that is not zero. -/
def shortest (m : Nat) (power : Int) : Decimal :=
  let (n, d) := magnitude m power
  let (k, e) := firstGrid (neighbourhood m power) n d (pointPlace n d) 1 17
  let digits := Nat.toDigits 10 k
  ⟨trimZeros digits, digits.length + e⟩

end Dismantle.Binary64
