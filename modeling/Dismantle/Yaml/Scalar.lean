import Dismantle.Yaml.Moment
import Dismantle.Number.Reading
import Dismantle.Yaml.Node
/-! What a node is: by its tag if it has one of the known ones, else text without quotes is
whatever it looks like. -/
namespace Dismantle.Yaml

inductive Kind where
  | null | bool | int | float | bytes | moment | text
  | list | map | orderedMap | pairs | set
  /-- Stands for the entries of another map, as a key. -/
  | merge
  /-- Stands for the value of a map as a whole, as a key. -/
  | content
  | unknown
  deriving DecidableEq, Repr

def nullWords : List String := ["", "~", "null", "Null", "NULL"]

def boolWords : List String :=
  ["yes", "Yes", "YES", "no", "No", "NO", "true", "True", "TRUE", "false", "False", "FALSE",
   "on", "On", "ON", "off", "Off", "OFF"]

def specialFloats : List String :=
  [".inf", ".Inf", ".INF", "-.inf", "-.Inf", "-.INF", "+.inf", "+.Inf", "+.INF",
   ".nan", ".NaN", ".NAN"]

def isDecimalMark (c : Char) : Bool := Json.isDigit c ∨ c = '_'

/-- Groups of a number to the base sixty behind its first: a colon, then one or two digits below
sixty. The rest of the text and whether there was a group. -/
def skipSixties : List Char → Bool → List Char × Bool
  | ':' :: a :: b :: cs, found =>
    if '0' ≤ a ∧ a ≤ '5' ∧ Json.isDigit b then skipSixties cs true
    else if Json.isDigit a then skipSixties (b :: cs) true
    else (':' :: a :: b :: cs, found)
  | [':', a], found => if Json.isDigit a then ([], true) else ([':', a], found)
  | cs, found => (cs, found)

/-- Nothing, or a letter, a sign and digits. -/
def isExponent : List Char → Bool
  | [] => true
  | e :: sign :: ds => (e = 'e' ∨ e = 'E') ∧ (sign = '-' ∨ sign = '+') ∧ !ds.isEmpty ∧ ds.all Json.isDigit
  | _ => false

def startsWithDigit (cs : List Char) : Bool := cs.head?.any Json.isDigit

/-- A point is what makes a number a floating point number. -/
def looksFloat (cs : List Char) : Bool :=
  let body := (Number.signOf cs).2
  let isSigned := body.length < cs.length
  let behindPoint (cs : List Char) : List Char := cs.dropWhile isDecimalMark
  let rest := body.dropWhile isDecimalMark
  let simple := startsWithDigit body && match rest with
    | '.' :: rest => isExponent (behindPoint rest)
    | _ => false
  let bare := !isSigned && match body with
    | '.' :: rest => startsWithDigit rest && isExponent (behindPoint rest)
    | _ => false
  let sixties := startsWithDigit body && match skipSixties rest false with
    | ('.' :: rest, true) => (behindPoint rest).isEmpty
    | _ => false
  simple || bare || sixties || specialFloats.contains (.ofList cs)

def looksInt (cs : List Char) : Bool :=
  match (Number.signOf cs).2 with
  | ['0'] => true
  | '0' :: 'b' :: ds => !ds.isEmpty && ds.all fun c => c = '0' ∨ c = '1' ∨ c = '_'
  | '0' :: 'x' :: ds => !ds.isEmpty && ds.all fun c => isHex c ∨ c = '_'
  | '0' :: ds => ds.all fun c => ('0' ≤ c ∧ c ≤ '7') ∨ c = '_'
  | cs => startsWithDigit cs && (skipSixties (cs.dropWhile isDecimalMark) false).1.isEmpty

/-- A date without a time is one only with two digits for month and day. -/
def looksMoment (cs : List Char) : Bool :=
  match Moment.of? cs with
  | some m => m.clock.isSome || m.wide
  | none => false

def Kind.ofText (cs : List Char) : Kind :=
  let cs := if cs.length ≠ 1 ∧ cs.getLast? = some '\n' then cs.dropLast else cs
  let s := String.ofList cs
  if boolWords.contains s then .bool
  else if looksFloat cs then .float
  else if looksInt cs then .int
  else if s = "<<" then .merge
  else if nullWords.contains s then .null
  else if looksMoment cs then .moment
  else if s = "=" then .content
  else .text

def tagKinds : List (String × Kind) :=
  [("null", .null), ("bool", .bool), ("int", .int), ("float", .float), ("binary", .bytes),
   ("timestamp", .moment), ("str", .text), ("seq", .list), ("map", .map), ("omap", .orderedMap),
   ("pairs", .pairs), ("set", .set), ("merge", .merge), ("value", .content)]

def Kind.ofTag (tag : String) : Kind :=
  ((tagKinds.find? fun k => coreTag k.1 = tag).map (·.2)).getD .unknown

/-- Points as characters, halves of pairs as replacement characters. -/
def charsOf (points : List Nat) : List Char :=
  points.map fun n => if Text.isHalf n then Char.ofNat 0xfffd else Char.ofNat n

def Node.kind : Node → Kind
  | .text .plain points => .ofText (charsOf points)
  | .text .quoted _ => .text
  | .list .plain _ | .list .quoted _ => .list
  | .map .plain _ | .map .quoted _ => .map
  | .text (.named t) _ | .list (.named t) _ | .map (.named t) _ => .ofTag t
  | .cycle => .map

end Dismantle.Yaml
