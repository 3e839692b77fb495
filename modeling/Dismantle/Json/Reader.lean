import Dismantle.Json.Basic
/-! Reading structured data. Besides the standard grammar the three words `NaN`, `Infinity` and
`-Infinity` are numbers. A fault names the place where reading stopped and why. -/
namespace Dismantle.Json

open Text (isHigh isLow isHalf)

inductive Problem where
  | byteOrderMark | noValue | noName | noColon | noComma | trailing
  | openString | controlCharacter | badEscape | badUnicodeEscape
  deriving DecidableEq, Repr

/-- Why a text could not be read: broken syntax at a place, a number with too many digits, or
too many values inside one another. -/
inductive ReadFault where
  | broken (problem : Problem) (place : Nat)
  | tooManyDigits (count : Nat)
  | tooDeep (list : Bool)
  deriving DecidableEq, Repr

/-- How many values may be open at the same time. -/
def maxDepth : Nat := 980

def isLayout (c : Char) : Bool := c = ' ' ∨ c = '\t' ∨ c = '\n' ∨ c = '\r'

def skipLayout : List Char → Nat → List Char × Nat
  | [], place => ([], place)
  | c :: cs, place => if isLayout c then skipLayout cs (place + 1) else (c :: cs, place)

def isDigit (c : Char) : Bool := '0' ≤ c ∧ c ≤ '9'

def hexValue? (c : Char) : Option Nat :=
  if isDigit c then some (c.toNat - 48)
  else if 'a' ≤ c ∧ c ≤ 'f' then some (c.toNat - 87)
  else if 'A' ≤ c ∧ c ≤ 'F' then some (c.toNat - 55)
  else none

def unit? (a b c d : Char) : Option Nat := do
  let a ← hexValue? a
  let b ← hexValue? b
  let c ← hexValue? c
  let d ← hexValue? d
  some (4096 * a + 256 * b + 16 * c + d)

def escapeValue? : Char → Option Nat
  | '"' => some 34
  | '\\' => some 92
  | '/' => some 47
  | 'b' => some 8
  | 'f' => some 12
  | 'n' => some 10
  | 'r' => some 13
  | 't' => some 9
  | _ => none

/-- A low half joins the high half that an escape right before it wrote. -/
def joinUnit (unit : Nat) (afterHigh : Bool) (done : List Nat) : List Nat :=
  match afterHigh, done with
  | true, high :: rest =>
    if isLow unit then (0x10000 + 1024 * (high - 0xd800) + (unit - 0xdc00)) :: rest
    else unit :: done
  | _, _ => unit :: done

/-- The code points of a string up to its closing quote. `start` is the place of the opening one,
`done` holds the points read, last first, and `afterHigh` tells that the last is a high half
from an escape. -/
def stringBody (start : Nat) : List Char → Nat → (afterHigh : Bool) → (done : List Nat) →
    Except ReadFault (List Nat × List Char × Nat)
  | [], _, _, _ => .error (.broken .openString start)
  | '"' :: rest, place, _, done => .ok (done.reverse, rest, place + 1)
  | '\\' :: 'u' :: a :: b :: c :: d :: next :: rest, place, afterHigh, done =>
    match unit? a b c d with
    | none => .error (.broken .badUnicodeEscape (place + 1))
    | some unit =>
      let joined := afterHigh && isLow unit
      stringBody start (next :: rest) (place + 6) (!joined && isHigh unit)
        (joinUnit unit afterHigh done)
  | '\\' :: 'u' :: _, place, _, _ => .error (.broken .badUnicodeEscape (place + 1))
  | '\\' :: c :: rest, place, _, done =>
    match escapeValue? c with
    | some n => stringBody start rest (place + 2) false (n :: done)
    | none => .error (.broken .badEscape place)
  | ['\\'], _, _, _ => .error (.broken .openString start)
  | c :: rest, place, _, done =>
    if c.toNat < 32 then .error (.broken .controlCharacter place)
    else stringBody start rest (place + 1) false (c.toNat :: done)

/-- Text of code points, if none of them is half of a pair. -/
def ofPoints (points : List Nat) : Json := ofSpelling (.ofPoints points)

def spanDigits (cs : List Char) : List Char × List Char := (cs.takeWhile isDigit, cs.dropWhile isDigit)

def natOf (ds : List Char) : Nat := ds.foldl (fun n c => 10 * n + (c.toNat - 48)) 0

/-- The digits of a fraction, when a point and a digit stand at the front. -/
def fraction : List Char → List Char × List Char
  | '.' :: cs => match spanDigits cs with
    | ([], _) => ([], '.' :: cs)
    | found => found
  | cs => ([], cs)

/-- The exponent at the front of a text, when a digit follows its letter and sign. -/
def exponent? : List Char → Option (Int × Nat × List Char)
  | e :: cs =>
    if e = 'e' ∨ e = 'E' then
      let (negative, signs, ds) : Bool × Nat × List Char := match cs with
        | '-' :: ds => (true, 1, ds)
        | '+' :: ds => (false, 1, ds)
        | ds => (false, 0, ds)
      match spanDigits ds with
      | ([], _) => none
      | (digits, rest) =>
        let n : Int := natOf digits
        some (if negative then -n else n, 1 + signs + digits.length, rest)
    else none
  | [] => none

/-- The digits of a number in front of its point; a zero there stands alone. -/
def wholePart : List Char → List Char × List Char
  | '0' :: rest => (['0'], rest)
  | cs => spanDigits cs

def unsigned (negative : Bool) (start : Nat) (cs : List Char) (place : Nat) : Except ReadFault (Json × List Char × Nat) :=
  match wholePart cs with
  | ([], _) => .error (.broken .noValue start)
  | (digits, rest) =>
    let (places, rest) := fraction rest
    let place := place + digits.length + (if places.isEmpty then 0 else places.length + 1)
    match places, exponent? rest with
    | [], none =>
      if maxDigits < digits.length then .error (.tooManyDigits digits.length)
      else
        let n : Int := natOf digits
        .ok (.int (if negative then -n else n), rest, place)
    | _, none =>
      .ok (.float (.ofDecimal negative (natOf (digits ++ places)) (-places.length)), rest, place)
    | _, some (e, width, rest) =>
      .ok (.float (.ofDecimal negative (natOf (digits ++ places)) (e - places.length)), rest,
        place + width)

def words : List (List Char × Json) :=
  [("null".toList, .null), ("true".toList, .bool true), ("false".toList, .bool false),
   ("NaN".toList, .float .nan), ("Infinity".toList, .float (.infinite false)),
   ("-Infinity".toList, .float (.infinite true))]

def word? (cs : List Char) (place : Nat) : Option (Json × List Char × Nat) :=
  words.findSome? fun (w, v) =>
    if w.isPrefixOf cs then some (v, cs.drop w.length, place + w.length) else none

def scalar (cs : List Char) (place : Nat) : Except ReadFault (Json × List Char × Nat) :=
  match word? cs place with
  | some found => .ok found
  | none => match cs with
    | '-' :: rest => unsigned true place rest (place + 1)
    | _ => unsigned false place cs place

mutual
/-- A value at the front of a text. Every call reads a character, so a text's length is fuel
enough for it. -/
def value : (fuel depth : Nat) → List Char → Nat → Except ReadFault (Json × List Char × Nat)
  | 0, _, _, place => .error (.broken .noValue place)
  | fuel + 1, depth, cs, place => match cs with
    | '"' :: rest => do
      let (points, rest, place) ← stringBody place rest (place + 1) false []
      .ok (ofPoints points, rest, place)
    | '[' :: rest =>
      if maxDepth ≤ depth then .error (.tooDeep true)
      else match skipLayout rest (place + 1) with
        | (']' :: rest, place) => .ok (.arr [], rest, place + 1)
        | (rest, place) => items fuel (depth + 1) rest place []
    | '{' :: rest =>
      if maxDepth ≤ depth then .error (.tooDeep false)
      else match skipLayout rest (place + 1) with
        | ('}' :: rest, place) => .ok (.obj [], rest, place + 1)
        | (rest, place) => members fuel (depth + 1) rest place []
    | _ => scalar cs place
/-- The items of a list from the first or the next one on; `done` holds those read, last first. -/
def items : (fuel depth : Nat) → List Char → Nat → (done : List Json) → Except ReadFault (Json × List Char × Nat)
  | 0, _, _, place, _ => .error (.broken .noValue place)
  | fuel + 1, depth, cs, place, done => do
    let (v, rest, place) ← value fuel depth cs place
    match skipLayout rest place with
    | (']' :: rest, place) => .ok (.arr (v :: done).reverse, rest, place + 1)
    | (',' :: rest, place) =>
      let (rest, place) := skipLayout rest (place + 1)
      items fuel depth rest place (v :: done)
    | (_, place) => .error (.broken .noComma place)
def members : (fuel depth : Nat) → List Char → Nat → (done : List (Spelling × Json)) → Except ReadFault (Json × List Char × Nat)
  | 0, _, _, place, _ => .error (.broken .noName place)
  | fuel + 1, depth, cs, place, done => match cs with
    | '"' :: rest => do
      let (points, rest, place) ← stringBody place rest (place + 1) false []
      match skipLayout rest place with
      | (':' :: rest, place) =>
        let (rest, place) := skipLayout rest (place + 1)
        let (v, rest, place) ← value fuel depth rest place
        let done := (.ofPoints points, v) :: done
        match skipLayout rest place with
        | ('}' :: rest, place) => .ok (.obj (Fields.ofPairs done.reverse), rest, place + 1)
        | (',' :: rest, place) =>
          let (rest, place) := skipLayout rest (place + 1)
          members fuel depth rest place done
        | (_, place) => .error (.broken .noComma place)
      | (_, place) => .error (.broken .noColon place)
    | _ => .error (.broken .noName place)
end

/-- The value that a whole text holds, or where reading stopped. -/
def readValue (cs : List Char) : Except ReadFault Json :=
  match cs with
  | '\ufeff' :: _ => .error (.broken .byteOrderMark 0)
  | _ => do
    let (start, place) := skipLayout cs 0
    let (v, rest, place) ← value (2 * cs.length + 2) 0 start place
    match skipLayout rest place with
    | ([], _) => .ok v
    | (_, place) => .error (.broken .trailing place)

def Problem.text : Problem → String
  | .byteOrderMark => "Unexpected UTF-8 BOM (decode using utf-8-sig)"
  | .noValue => "Expecting value"
  | .noName => "Expecting property name enclosed in double quotes"
  | .noColon => "Expecting ':' delimiter"
  | .noComma => "Expecting ',' delimiter"
  | .trailing => "Extra data"
  | .openString => "Unterminated string starting at"
  | .controlCharacter => "Invalid control character at"
  | .badEscape => "Invalid \\escape"
  | .badUnicodeEscape => "Invalid \\uXXXX escape"

def lineColumn (cs : List Char) (place : Nat) : Nat × Nat :=
  let before := cs.take place
  let line := before.count '\n' + 1
  (line, (before.reverse.takeWhile (· ≠ '\n')).length + 1)

/-- Why a text is no structured data, for a reader of the text. -/
inductive Unreadable where
  | broken (problem : Problem) (line column place : Nat)
  | tooManyDigits (count : Nat)
  | tooDeep (list : Bool)
  deriving DecidableEq, Repr

def ReadFault.located (cs : List Char) : ReadFault → Unreadable
  | .broken problem place =>
    let (line, column) := lineColumn cs place
    .broken problem line column place
  | .tooManyDigits count => .tooManyDigits count
  | .tooDeep list => .tooDeep list

def read (s : String) : Except Unreadable Json :=
  (readValue s.toList).mapError (ReadFault.located s.toList)

def digitsText (count : Nat) : String :=
  "Exceeds the limit (" ++ toString maxDigits ++ " digits) for integer string conversion: value has "
    ++ toString count ++ " digits; use sys.set_int_max_str_digits() to increase the limit"

def Unreadable.text : Unreadable → String
  | .broken problem line column place =>
    problem.text ++ ": line " ++ toString line ++ " column " ++ toString column
      ++ " (char " ++ toString place ++ ")"
  | .tooManyDigits count => digitsText count
  | .tooDeep list =>
    "maximum recursion depth exceeded while decoding a JSON " ++ (if list then "array" else "object")
      ++ " from a unicode string"

end Dismantle.Json
