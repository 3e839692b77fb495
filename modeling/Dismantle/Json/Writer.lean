import Dismantle.Json.Basic
import Dismantle.Number.Text
import Dismantle.Text.Quoted
/-! Writing structured data in ASCII, on one line or with each item on a line of its own. -/
namespace Dismantle.Json

def unitEscape (n : Nat) : List Char := '\\' :: 'u' :: Text.hexDigits 4 n

/-- A code point inside a string: printable ASCII as it is, the usual short escapes, all else
by its UTF-16 units. -/
def writePoint (n : Nat) : List Char :=
  if n = 34 then ['\\', '"']
  else if n = 92 then ['\\', '\\']
  else if n = 10 then ['\\', 'n']
  else if n = 13 then ['\\', 'r']
  else if n = 9 then ['\\', 't']
  else if n = 12 then ['\\', 'f']
  else if n = 8 then ['\\', 'b']
  else if 32 ≤ n ∧ n ≤ 126 then [Char.ofNat n]
  else if n < 0x10000 then unitEscape n
  else unitEscape (0xd800 + (n - 0x10000) / 1024) ++ unitEscape (0xdc00 + (n - 0x10000) % 1024)

def writePoints (points : List Nat) : List Char := '"' :: points.flatMap writePoint ++ ['"']

def writeString (s : String) : List Char := writePoints (s.toList.map Char.toNat)

def writeKey (k : Spelling) : List Char := writePoints k.points

def writeInt (i : Int) : List Char :=
  if i < 0 then '-' :: Nat.toDigits 10 i.natAbs else Nat.toDigits 10 i.natAbs

def writeFloat : Binary64 → List Char
  | .nan => "NaN".toList
  | .infinite negative => Binary64.signed negative "Infinity".toList
  | d => d.text.toList

/-- What stands between items and around them: `open_` and `close` depend on how deep a list or
an object lies. -/
structure Layout where
  comma : Nat → List Char
  start : Nat → List Char
  finish : Nat → List Char

/-- Everything on one line, a space behind commas. -/
def Layout.oneLine : Layout := ⟨fun _ => [',', ' '], fun _ => [], fun _ => []⟩

def newLine (depth : Nat) : List Char := '\n' :: List.replicate (2 * depth) ' '

/-- Each item on its own line, two spaces deeper than what encloses it. -/
def Layout.indented : Layout :=
  ⟨fun depth => ',' :: newLine (depth + 1), fun depth => newLine (depth + 1), newLine⟩

mutual
def write (l : Layout) (depth : Nat) : Json → List Char
  | .null => "null".toList
  | .bool b => if b then "true".toList else "false".toList
  | .int i => writeInt i
  | .float d => writeFloat d
  | .str s => writeString s
  | .unpaired points => writePoints points
  | .arr [] => ['[', ']']
  | .arr (x :: xs) =>
    '[' :: l.start depth ++ write l (depth + 1) x ++ writeItems l depth xs ++ l.finish depth ++ [']']
  | .obj [] => ['{', '}']
  | .obj ((k, v) :: rest) =>
    '{' :: l.start depth ++ writeKey k ++ ':' :: ' ' :: write l (depth + 1) v
      ++ writeFields l depth rest ++ l.finish depth ++ ['}']
def writeItems (l : Layout) (depth : Nat) : List Json → List Char
  | [] => []
  | x :: xs => l.comma depth ++ write l (depth + 1) x ++ writeItems l depth xs
def writeFields (l : Layout) (depth : Nat) : List (Spelling × Json) → List Char
  | [] => []
  | (k, v) :: rest =>
    l.comma depth ++ writeKey k ++ ':' :: ' ' :: write l (depth + 1) v ++ writeFields l depth rest
end

mutual
/-- What is written before the first integer that has too many digits, if there is one. An item of a
list is written together with what stands between it and the one before. -/
def cutShort (l : Layout) (depth : Nat) : Json → Option (List Char)
  | .int i => if maxDigits < (Nat.toDigits 10 i.natAbs).length then some [] else none
  | .arr items => cutShortItems l depth ('[' :: l.start depth) items
  | .obj fields => cutShortFields l depth ('{' :: l.start depth) fields
  | _ => none
def cutShortItems (l : Layout) (depth : Nat) (lead : List Char) : List Json → Option (List Char)
  | [] => none
  | x :: xs => match cutShort l (depth + 1) x with
    | some cs => some (match x with | .int _ => [] | _ => lead ++ cs)
    | none =>
      (cutShortItems l depth (l.comma depth) xs).map (lead ++ write l (depth + 1) x ++ ·)
def cutShortFields (l : Layout) (depth : Nat) (lead : List Char) :
    List (Spelling × Json) → Option (List Char)
  | [] => none
  | (k, v) :: rest =>
    let lead := lead ++ writeKey k ++ [':', ' ']
    match cutShort l (depth + 1) v with
    | some cs => some (lead ++ cs)
    | none =>
      (cutShortFields l depth (l.comma depth) rest).map (lead ++ write l (depth + 1) v ++ ·)
end

/-- What is said of an integer that has too many digits to be written. -/
def unwritableText : String :=
  "Exceeds the limit (" ++ toString maxDigits ++ " digits) for integer string conversion; use "
    ++ "sys.set_int_max_str_digits() to increase the limit"

def line (v : Json) : String := .ofList (write .oneLine 0 v)

def page (v : Json) : String := .ofList (write .indented 0 v)

end Dismantle.Json
