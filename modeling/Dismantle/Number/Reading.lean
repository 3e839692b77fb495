import Dismantle.Json.Reader
import Dismantle.Text.Blank
import Dismantle.Text.Digit
import Dismantle.Text.Quoted
/-! Numbers written on their own, with blanks around them and digits of any script. -/
namespace Dismantle.Number

/-- A digit of a base up to 36: the digits of every script and the letters of ASCII. -/
def digitOf? (base : Nat) (c : Char) : Option Nat :=
  let value := match Text.digitValue? c with
    | some d => some d
    | none =>
      if 'a' ≤ c ∧ c ≤ 'z' then some (c.toNat - 87)
      else if 'A' ≤ c ∧ c ≤ 'Z' then some (c.toNat - 55)
      else none
  value.filter (· < base)

def signOf : List Char → Bool × List Char
  | '-' :: cs => (true, cs)
  | '+' :: cs => (false, cs)
  | cs => (false, cs)

/-- The letter that announces a base behind a zero. -/
def baseMark : (base : Nat) → Option Char
  | 2 => some 'b'
  | 8 => some 'o'
  | 16 => some 'x'
  | _ => none

def dropBaseMark (base : Nat) : List Char → List Char
  | '0' :: c :: cs =>
    if (baseMark base).any fun m => c = m ∨ c.toNat + 32 = m.toNat then cs else '0' :: c :: cs
  | cs => cs

def invalidWhole (base : Nat) (cs : List Char) : String :=
  "invalid literal for int() with base " ++ toString base ++ ": " ++ Text.quoted (.ofList cs)

/-- A whole number, or what is said of a text that is none. Only bases that are no powers of two
limit the number of digits. -/
def whole (base : Nat) (cs : List Char) : Except String Int := do
  let (negative, ds) := signOf (Text.trimEnds Text.isBlank cs)
  match (dropBaseMark base ds).mapM (digitOf? base) with
  | none | some [] => throw (invalidWhole base cs)
  | some digits =>
    if base = 10 ∧ Json.maxDigits < digits.length then
      throw (Json.digitsText digits.length)
    let n : Int := (digits.foldl (fun n d => base * n + d) 0 : Nat)
    return if negative then -n else n

/-- The values of digits from the front of a text, and the rest. -/
def spanDecimals (cs : List Char) : List Nat × List Char :=
  ((cs.takeWhile Text.isDecimal).filterMap Text.digitValue?, cs.dropWhile Text.isDecimal)

def exponentOf? : List Char → Option Int
  | [] => some 0
  | c :: cs =>
    if c = 'e' ∨ c = 'E' then
      let (negative, ds) := signOf cs
      match spanDecimals ds with
      | ([], _) => none
      | (digits, []) =>
        let n : Int := Text.natOfDigits digits
        some (if negative then -n else n)
      | _ => none
    else none

def decimal? (negative : Bool) (cs : List Char) : Option Binary64 := do
  let (before, rest) := spanDecimals cs
  let (after, rest) := match rest with
    | '.' :: rest => spanDecimals rest
    | rest => ([], rest)
  if before.isEmpty && after.isEmpty then none
  let e ← exponentOf? rest
  return .ofDecimal negative (Text.natOfDigits (before ++ after)) (e - after.length)

/-- A floating point number; the words for infinity and for no number are in small letters. -/
def real (cs : List Char) : Except String Binary64 :=
  let (negative, body) := signOf (Text.trimEnds Text.isBlank cs)
  let word := String.ofList body
  if word = "inf" ∨ word = "infinity" then .ok (.infinite negative)
  else if word = "nan" then .ok .nan
  else match decimal? negative body with
    | some d => .ok d
    | none => .error ("could not convert string to float: " ++ Text.quoted (.ofList cs))

end Dismantle.Number
