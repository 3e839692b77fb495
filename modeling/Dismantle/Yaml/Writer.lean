import Dismantle.Json.Writer
import Dismantle.Yaml.Style
/-! Writing structured data as a document: maps and lists in blocks, keys sorted, long text folded
behind the eightieth column. All of it is ASCII. -/
namespace Dismantle.Yaml

/-- What is written, last character first, and what stands at the end of it: `gap` after a blank
or at the start of a line, `margin` when the line holds nothing but blanks and marks of items. -/
structure Pen where
  done : List Char := []
  column : Nat := 0
  gap : Bool := true
  margin : Bool := true

namespace Pen

def width : Nat := 80

def put (p : Pen) (cs : List Char) : Pen :=
  { p with done := cs.reverse ++ p.done, column := p.column + cs.length }

def newLine (p : Pen) : Pen := { done := '\n' :: p.done, column := 0, gap := true, margin := true }

def newLines (p : Pen) : (n : Nat) → Pen
  | 0 => p
  | n + 1 => p.newLine.newLines n

/-- Goes to a column, on a new line if the present one is in use. -/
def indent (p : Pen) (column : Nat) : Pen :=
  let p := if !p.margin || column < p.column || (p.column = column && !p.gap) then p.newLine else p
  if p.column < column then { p.put (List.replicate (column - p.column) ' ') with gap := true } else p

/-- A mark: `apart` from what is in front of it, with a gap behind it, on a margin. -/
def mark (p : Pen) (cs : List Char) (apart gap margin : Bool) : Pen :=
  { p.put (if p.gap || !apart then cs else ' ' :: cs) with gap, margin := p.margin && margin }

def inText (p : Pen) : Pen := { p with gap := false, margin := false }

end Pen

/-- Cuts a text into runs of blanks, runs of line feeds and the rest. -/
def runs (cs : List Char) : List (List Char) :=
  let kind (c : Char) : Nat := if c = ' ' then 0 else if c = '\n' then 1 else 2
  cs.splitBy fun a b => kind a == kind b

/-- Runs of text without quotes. A single blank behind the last column becomes a line break. -/
def writeBareRuns (column : Nat) (fold : Bool) : List (List Char) → Pen → Pen
  | [], p => p
  | run :: rest, p =>
    let p := if run = [' '] ∧ Pen.width < p.column ∧ fold then (p.indent column).inText else p.put run
    writeBareRuns column fold rest p

def writeBare (column : Nat) (fold : Bool) (cs : List Char) (p : Pen) : Pen :=
  writeBareRuns column fold (runs cs) ((if p.gap then p else p.put [' ']).inText)

/-- Runs in single quotes. A line feed is written as two, a quote twice; a single blank is folded
only between other characters. -/
def writeSingleRuns (column : Nat) (fold first : Bool) : List (List Char) → Pen → Pen
  | [], p => p
  | run :: rest, p =>
    let p :=
      if run.head? = some '\n' then (p.newLines (run.length + 1)).indent column
      else if run = [' '] ∧ Pen.width < p.column ∧ fold ∧ !first ∧ !rest.isEmpty then p.indent column
      else p.put (run.flatMap fun c => if c = '\'' then ['\'', '\''] else [c])
    writeSingleRuns column fold false rest p

def writeSingle (column : Nat) (fold : Bool) (cs : List Char) (p : Pen) : Pen :=
  (writeSingleRuns column fold true (runs cs) (p.mark ['\''] true false false)).mark ['\''] false false false

def upperHex (width n : Nat) : List Char := (Text.hexDigits width n).map Char.toUpper

def escapeLetter? (n : Nat) : Option Char :=
  [(0, '0'), (7, 'a'), (8, 'b'), (9, 't'), (10, 'n'), (11, 'v'), (12, 'f'), (13, 'r'), (27, 'e'),
   (34, '"'), (92, '\\'), (0x85, 'N'), (0xa0, '_'), (0x2028, 'L'), (0x2029, 'P')].lookup n

def escape? (n : Nat) : Option (List Char) :=
  match escapeLetter? n with
  | some c => some ['\\', c]
  | none =>
    if 32 ≤ n ∧ n ≤ 126 then none
    else if n ≤ 0xff then some ('\\' :: 'x' :: upperHex 2 n)
    else if n ≤ 0xffff then some ('\\' :: 'u' :: upperHex 4 n)
    else some ('\\' :: 'U' :: upperHex 8 n)

/-- Breaks a text in double quotes; a blank at the start of the next line is escaped. -/
def breakDouble (column : Nat) (next : Option Nat) (p : Pen) : Pen :=
  let p := ((p.put ['\\']).indent column).inText
  if next = some 32 then p.put ['\\'] else p

/-- Code points in double quotes. Lines are broken behind an escape or in front of a blank, but
not at the ends of the text. `escaped` tells that an escape is in front. -/
def writePoints (column : Nat) (fold first escaped : Bool) : List Nat → Pen → Pen
  | [], p => p
  | n :: rest, p =>
    let inside := fold && !first && !rest.isEmpty
    match escape? n with
    | some cs =>
      let p := p.put cs
      let p := if inside && Pen.width + 1 < p.column then breakDouble column rest.head? p else p
      writePoints column fold false true rest p
    | none =>
      let p :=
        if inside && (n = 32 || escaped) && Pen.width < p.column then breakDouble column (some n) p
        else p
      writePoints column fold false false rest (p.put [Char.ofNat n])

def writeDouble (column : Nat) (fold : Bool) (points : List Nat) (p : Pen) : Pen :=
  (writePoints column fold true false points (p.mark ['"'] true false false)).mark ['"'] false false false

def writeText (column : Nat) (isKey : Bool) (s : String) (p : Pen) : Pen :=
  let cs := s.toList
  match styleOf cs with
  | .bare => writeBare column (!isKey) cs p
  | .single => writeSingle column (!isKey) cs p
  | .double => writeDouble column (!isKey) (cs.map Char.toNat) p

/-- A number has a point or an exponent behind one. -/
def floatText : Binary64 → List Char
  | .nan => ".nan".toList
  | .infinite negative => Binary64.signed negative ".inf".toList
  | d =>
    let cs := d.text.toList
    if cs.contains '.' then cs
    else cs.takeWhile (· ≠ 'e') ++ (if cs.contains 'e' then ['.', '0'] else []) ++ cs.dropWhile (· ≠ 'e')

def keyLe : Spelling → Spelling → Bool
  | .plain s, .plain t => decide (s ≤ t)
  | s, t => !t.points.lex s.points Nat.blt

def sortedFields (fs : Fields) : Fields := fs.mergeSort fun a b => keyLe a.1 b.1

/-- The text of a key; only double quotes can hold half of a surrogate pair. -/
def writeKeyText (column : Nat) (isKey : Bool) : Spelling → Pen → Pen
  | .plain s, p => writeText column isKey s p
  | .broken points, p => writeDouble column (!isKey) points p

/-- A key with the mark behind it. A key that cannot stand in front of a colon has a mark of its
own. -/
def writeKey (column : Nat) (key : Spelling) (p : Pen) : Pen :=
  let p := p.indent column
  if isSimpleKey (key.points.map Char.ofNat) then
    (writeKeyText (column + 2) true key p).mark [':'] false false false
  else
    let p := writeKeyText (column + 2) false key (p.mark ['?'] true false true)
    (p.indent column).mark [':'] true false true

mutual
/-- A value at a column. A list behind a key stands at the key's own column. -/
def writeValue (column : Nat) (behindKey : Bool) : Json → Pen → Pen
  | .null, p => writeBare (column + 2) true "null".toList p
  | .bool b, p => writeBare (column + 2) true (if b then "true".toList else "false".toList) p
  | .int i, p => writeBare (column + 2) true (Json.writeInt i) p
  | .float d, p => writeBare (column + 2) true (floatText d) p
  | .str s, p => writeText (column + 2) false s p
  | .unpaired points, p => writeDouble (column + 2) true points p
  | .arr [], p => (p.mark ['['] true true false).mark [']'] false false false
  | .obj [], p => (p.mark ['{'] true true false).mark ['}'] false false false
  | .arr items, p => writeItems (if behindKey && !p.margin then column else column + 2) items p
  | .obj fields, p => writeFields (column + 2) fields p
def writeItems (column : Nat) : List Json → Pen → Pen
  | [], p => p
  | v :: rest, p =>
    let p := (p.indent column).mark ['-'] true false true
    writeItems column rest (writeValue column false v p)
def writeFields (column : Nat) : List (Spelling × Json) → Pen → Pen
  | [], p => p
  | (k, v) :: rest, p => writeFields column rest (writeValue column true v (writeKey column k p))
end

mutual
def sorted : Json → Json
  | .arr items => .arr (sortedAll items)
  | .obj fields => .obj (sortedFields (sortedValues fields))
  | v => v
def sortedAll : List Json → List Json
  | [] => []
  | v :: rest => sorted v :: sortedAll rest
def sortedValues : List (Spelling × Json) → List (Spelling × Json)
  | [] => []
  | (k, v) :: rest => (k, sorted v) :: sortedValues rest
end

def document (fields : Fields) : String :=
  let p := match sorted (.obj fields) with
    | .obj (f :: rest) => writeFields 0 (f :: rest) {}
    | v => writeValue 0 false v {}
  .ofList (p.indent 0).done.reverse

end Dismantle.Yaml
