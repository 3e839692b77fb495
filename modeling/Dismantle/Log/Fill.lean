import Dismantle.Fault.Basic
import Dismantle.Json.Display
/-! Filling values into a message. A place in the message is a percent sign, flags, a width, a
precision and a letter for the kind of value; the values come in order or, by name, from one
object. -/
namespace Dismantle.Log

/-- How a place wants its value. -/
structure Place where
  left : Bool := false
  plus : Bool := false
  blank : Bool := false
  marked : Bool := false
  zeros : Bool := false
  width : Nat := 0
  precision : Option Nat := none
  deriving Repr

/-- The values that are left; or the object that the named ones come from, and the value that the
next place takes. -/
inductive Values where
  | row (rest : List Json)
  | named (fields : Fields) (next : Option Json)

def notEnough : Fault := .wrongType "not enough arguments for format string"

/-- The next value. An object counts as one value until a name has picked another. -/
def Values.take : Values → Except Fault (Json × Values)
  | .row (v :: rest) => .ok (v, .row rest)
  | .named fields (some v) => .ok (v, .named fields none)
  | .row [] | .named _ none => .error notEnough

/-- Makes the value of this name the next one. -/
def Values.pick (name : String) : Values → Except Fault Values
  | .row _ => .error (.wrongType "format requires a mapping")
  | .named fields _ => match fields.get? name with
    | some v => .ok (.named fields (some v))
    | none => .error (.plain .key name)

def spaces (n : Nat) : List Char := List.replicate n ' '

def Place.placeText (p : Place) (s : String) : List Char :=
  let cs := match p.precision with
    | some n => s.toList.take n
    | none => s.toList
  if p.left then cs ++ spaces (p.width - cs.length) else spaces (p.width - cs.length) ++ cs

/-- A number: its sign, a mark such as `0x`, and its digits. -/
def Place.placeNumber (p : Place) (negative : Bool) (mark digits : List Char) : List Char :=
  let sign := if negative then ['-'] else if p.plus then ['+'] else if p.blank then [' '] else []
  let room := p.width - (sign.length + mark.length + digits.length)
  if p.left then sign ++ mark ++ digits ++ spaces room
  else if p.zeros then sign ++ mark ++ List.replicate room '0' ++ digits
  else spaces room ++ sign ++ mark ++ digits

def ascii (s : String) : String :=
  .ofList (s.toList.flatMap fun c => if c.toNat < 128 then [c] else Text.escapePoint c.toNat)

/-- The whole number that a value stands for. Numbers with a fraction lose it where `cut` allows. -/
def wholeOf (letter : Char) (cut : Bool) (v : Json) : Except Fault Int :=
  let kind := "%" ++ String.ofList [letter] ++ " format: "
  match v with
  | .int i => .ok i
  | .bool b => .ok (if b then 1 else 0)
  | .float d =>
    if !cut then .error (.wrongType (kind ++ "an integer is required, not float"))
    else match d with
      | .nan => .error (.plain .value "cannot convert float NaN to integer")
      | .infinite _ => .error (.plain .overflow "cannot convert float infinity to integer")
      | d => .ok (d.truncate?.getD 0)
  | v => .error (.wrongType (kind ++ "a real number is required, not " ++ v.kindName))

def Place.placeWhole (p : Place) (base : Nat) (mark : List Char) (capital : Bool) (i : Int) :
    List Char :=
  let ds := Nat.toDigits base i.natAbs
  let ds := if capital then ds.map Char.toUpper else ds
  let ds := List.replicate (p.precision.getD 0 - ds.length) '0' ++ ds
  p.placeNumber (i < 0) (if p.marked then mark else []) ds

def realOf : Json → Except Fault Binary64
  | .float d => .ok d
  | .int i =>
    let d := Binary64.ofInt i
    if d.isFinite then .ok d
    else .error (.plain .overflow "int too large to convert to float")
  | .bool b => .ok (.ofInt (if b then 1 else 0))
  | v => .error (.wrongType ("must be real number, not " ++ v.kindName))

def Place.placeReal (p : Place) (letter : Char) (d : Binary64) : List Char :=
  let places := p.precision.getD 6
  let (negative, body) : Bool × List Char := match d with
    | .nan => (false, "nan".toList)
    | .infinite negative => (negative, "inf".toList)
    | .finite negative m power => (negative, match letter.toLower with
      | 'e' => Binary64.withExponent p.marked m power places
      | 'f' => Binary64.fixed p.marked m power places
      | _ => Binary64.general p.marked m power places)
  p.placeNumber negative [] (if letter.isUpper then body.map Char.toUpper else body)

def charOf : Json → Except Fault String
  | .str s => if s.length = 1 then .ok s else .error (.wrongType "%c requires int or char")
  | .int i =>
    if 0 ≤ i ∧ i < 0x110000 then .ok (.ofList [Char.ofNat i.toNat])
    else .error (.plain .overflow "%c arg not in range(0x110000)")
  | .bool b => .ok (.ofList [Char.ofNat (if b then 1 else 0)])
  | _ => .error (.wrongType "%c requires int or char")

/-- A value in the form that a letter asks for; `index` is the letter's place in the message. -/
def Place.put (p : Place) (letter : Char) (index : Nat) (v : Json) : Except Fault (List Char) :=
  match letter with
  | 's' => .ok (p.placeText v.display)
  | 'r' => .ok (p.placeText v.quoted)
  | 'a' => .ok (p.placeText (ascii v.quoted))
  | 'd' | 'i' | 'u' => (wholeOf 'd' true v).map (p.placeWhole 10 [] false)
  | 'o' => (wholeOf letter false v).map (p.placeWhole 8 ['0', 'o'] false)
  | 'x' => (wholeOf letter false v).map (p.placeWhole 16 ['0', 'x'] false)
  | 'X' => (wholeOf letter false v).map (p.placeWhole 16 ['0', 'X'] true)
  | 'e' | 'E' | 'f' | 'F' | 'g' | 'G' => (realOf v).map (p.placeReal letter)
  | 'c' => (charOf v).map { p with precision := none }.placeText
  | c =>
    let shown := if 31 ≤ c.toNat ∧ c.toNat ≤ 126 then c else '?'
    .error (.plain .value ("unsupported format character '" ++ .ofList [shown] ++ "' (0x"
      ++ .ofList (Nat.toDigits 16 c.toNat) ++ ") at index " ++ toString index))

def incomplete : Fault := .plain .value "incomplete format"

def Place.withFlag (p : Place) : Char → Option Place
  | '-' => some { p with left := true }
  | '+' => some { p with plus := true }
  | ' ' => some { p with blank := true }
  | '#' => some { p with marked := true }
  | '0' => some { p with zeros := true }
  | _ => none

def readFlags (p : Place) : List Char → Place × List Char
  | [] => (p, [])
  | c :: cs => match p.withFlag c with
    | some p => readFlags p cs
    | none => (p, c :: cs)

/-- The name in parentheses, which may hold further pairs of parentheses. -/
def readName : (depth : Nat) → List Char → (done : List Char) → Option (String × List Char)
  | _, [], _ => none
  | depth, c :: cs, done =>
    if c = ')' then
      if depth = 0 then some (.ofList done.reverse, cs) else readName (depth - 1) cs (c :: done)
    else readName (if c = '(' then depth + 1 else depth) cs (c :: done)

/-- A size: digits, or a star that takes the next value. -/
def readSize (values : Values) : List Char → Except Fault (Option Int × List Char × Values)
  | '*' :: cs => do
    let (v, values) ← values.take
    match v with
    | .int i => .ok (some i, cs, values)
    | .bool b => .ok (some (if b then 1 else 0), cs, values)
    | _ => .error (.wrongType "* wants int")
  | cs =>
    let (ds, rest) := Json.spanDigits cs
    .ok (if ds.isEmpty then none else some (Json.natOf ds), rest, values)

def tooLargeFor (unit : String) : Fault :=
  .plain .overflow ("Python int too large to convert to C " ++ unit)

/-- The width at the front, which has 63 bits. A negative one asks for blanks on the right. -/
def readWidth (p : Place) (values : Values) (cs : List Char) :
    Except Fault (Place × List Char × Values) := do
  let (width, rest, values) ← readSize values cs
  let w := width.getD 0
  if w.natAbs < twoTo 63 then
    .ok ({ p with left := p.left || w < 0, width := w.natAbs }, rest, values)
  else if cs.head? = some '*' then .error (tooLargeFor "ssize_t")
  else .error (.plain .value "width too big")

/-- The precision at the front, which has 31 bits. A negative one is none at all. -/
def readPrecision (p : Place) (values : Values) (cs : List Char) :
    Except Fault (Place × List Char × Values) := do
  match cs with
  | '.' :: cs =>
    let (size, rest, values) ← readSize values cs
    let n := size.getD 0
    if -(twoTo 31 : Int) ≤ n ∧ n < twoTo 31 then .ok ({ p with precision := some n.toNat }, rest, values)
    else if cs.head? = some '*' then .error (tooLargeFor "int")
    else .error (.plain .value "precision too big")
  | cs => .ok (p, cs, values)

/-- What stands between a percent sign and its letter. -/
def readPlace (values : Values) (cs : List Char) :
    Except Fault (Place × List Char × Values) := do
  let (values, cs) ← match cs with
    | '(' :: rest => match values, readName 0 rest [] with
      | .named .., none => .error (.plain .value "incomplete format key")
      | _, found => do
        let (name, rest) := found.getD ("", rest)
        let values ← values.pick name
        .ok (values, rest)
    | cs => .ok (values, cs)
  let (p, cs) := readFlags {} cs
  let (p, cs, values) ← readWidth p values cs
  let (p, cs, values) ← readPrecision p values cs
  let cs := match cs with
    | c :: rest => if c = 'h' ∨ c = 'l' ∨ c = 'L' then rest else cs
    | [] => []
  .ok (p, cs, values)

/-- Fills the rest of a message, `length` characters long in all; each place takes at least one
character, so the number of characters is fuel enough. -/
def fillFrom (length : Nat) : (fuel : Nat) → List Char → Values → (done : List Char) →
    Except Fault (List Char × Values)
  | 0, _, values, done => .ok (done.reverse, values)
  | _ + 1, [], values, done => .ok (done.reverse, values)
  | fuel + 1, '%' :: '%' :: cs, values, done => fillFrom length fuel cs values ('%' :: done)
  | fuel + 1, '%' :: cs, values, done => do
    let (p, cs, values) ← readPlace values cs
    match cs with
    | [] => .error incomplete
    | letter :: cs =>
      let (v, values) ← values.take
      let text ← p.put letter (length - cs.length - 1) v
      fillFrom length fuel cs values (text.reverse ++ done)
  | fuel + 1, c :: cs, values, done => fillFrom length fuel cs values (c :: done)

/-- The values at the start. A single object that is not empty serves the named places. -/
def Values.start : List Json → Values
  | [.obj (f :: fs)] => .named (f :: fs) (some (.obj (f :: fs)))
  | values => .row values

/-- A message with values filled in; without values it is left as it is. Values in a row have to be
used. -/
def fill (message : String) (values : List Json) : Except Fault String :=
  if values.isEmpty then .ok message
  else
    let cs := message.toList
    match fillFrom cs.length (cs.length + 1) cs (.start values) [] with
    | .error f => .error f
    | .ok (_, .row (_ :: _)) =>
      .error (.wrongType "not all arguments converted during string formatting")
    | .ok (done, _) => .ok (.ofList done)

end Dismantle.Log
