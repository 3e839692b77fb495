import Dismantle.Console.ShortName
import Dismantle.Fault.Basic
import Dismantle.Text.Blank
import Dismantle.Text.Case
/-! Text with tags in square brackets. Tags say how text looks and are not shown; on plain paper
nothing is left of them. A backslash in front of a tag makes it text. -/
namespace Dismantle.Console.Markup

def startsTag (c : Char) : Bool := ('a' ≤ c ∧ c ≤ 'z') ∨ c = '#' ∨ c = '/' ∨ c = '@'

/-- What a tag at the front of a text says, and the text behind it. -/
def tag? : List Char → Option (List Char × List Char)
  | '[' :: c :: cs =>
    if startsTag c then
      let inner := cs.takeWhile fun x => x ≠ '[' ∧ x ≠ ']'
      match cs.drop inner.length with
      | ']' :: rest => some (c :: inner, rest)
      | _ => none
    else none
  | _ => none

inductive Piece where
  | text (cs : List Char)
  | tag (inner : List Char)
  deriving DecidableEq, Repr

/-- Cuts a text into tags, each with the number of backslashes in front of it, and what is between
them. `done` holds the characters in front of the next tag, last first; `fuel` is the length of
the text. -/
def cut : (fuel : Nat) → (done cs : List Char) → List (List Char × Option (Nat × List Char))
  | 0, done, cs => [(done.reverse ++ cs, none)]
  | _, done, [] => [(done.reverse, none)]
  | fuel + 1, done, c :: cs =>
    let slashes := (c :: cs).takeWhile (· = '\\')
    match tag? ((c :: cs).drop slashes.length) with
    | some (inner, rest) => (done.reverse, some (slashes.length, inner)) :: cut fuel [] rest
    | none =>
      if slashes.isEmpty then cut fuel (c :: done) cs
      else cut fuel (slashes ++ done) ((c :: cs).drop slashes.length)

def cuts (cs : List Char) : List (List Char × Option (Nat × List Char)) := cut cs.length [] cs

def bracketed (inner : List Char) : List Char := '[' :: inner ++ [']']

/-- Makes every tag in a text plain text, and keeps a backslash at its end apart from what follows. -/
def escape (s : String) : String :=
  let cs := (cuts s.toList).flatMap fun (before, found) => before ++ match found with
    | some (slashes, inner) => List.replicate (2 * slashes + 1) '\\' ++ bracketed inner
    | none => []
  let lonely := cs.reverse.takeWhile (· = '\\') = ['\\']
  .ofList (if lonely then cs ++ ['\\'] else cs)

/-- A backslash in front of a bracket that opens no tag is not shown. -/
def dropEscapes : List Char → List Char
  | '\\' :: '[' :: cs => '[' :: dropEscapes cs
  | c :: cs => c :: dropEscapes cs
  | [] => []

/-- Two backslashes stand for one; one that is left makes the tag text. -/
def piecesOf (part : List Char × Option (Nat × List Char)) : List Piece :=
  .text (dropEscapes part.1) :: match part.2 with
    | none => []
    | some (slashes, inner) =>
      [.text (List.replicate (slashes / 2) '\\'),
       if slashes % 2 = 0 then .tag inner else .text (bracketed inner)]

/-- A name between two colons, without the form that may follow it, and the text behind. -/
def shortName? : List Char → Option (List Char × List Char)
  | ':' :: cs =>
    let inner := cs.takeWhile fun c => c ≠ ':' ∧ !Text.isBlank c
    match cs.drop inner.length with
    | ':' :: rest => some (inner, rest)
    | _ => none
  | _ => none

/-- The name and the form that is asked for: as text, or in colours. -/
def formOf (name : List Char) : List Char × List Char :=
  let ends (word : List Char) : Bool := ('-' :: word).reverse.isPrefixOf name.reverse
  if ends "emoji".toList then (name.take (name.length - 6), [Char.ofNat 0xfe0f])
  else if ends "text".toList then (name.take (name.length - 5), [Char.ofNat 0xfe0e])
  else (name, [])

/-- Puts pictographs in place of their names. `fuel` is the length of the text. -/
def pictured : (fuel : Nat) → List Char → List Char
  | 0, cs => cs
  | _, [] => []
  | fuel + 1, c :: cs => match shortName? (c :: cs) with
    | none => c :: pictured fuel cs
    | some (inner, rest) =>
      let (name, form) := formOf inner
      match pictograph? (Text.lower (.ofList name)).toList with
      | some picture => picture ++ form ++ pictured fuel rest
      | none => ':' :: inner ++ ':' :: pictured fuel rest

/-- Controls that move the print head are not shown. -/
def isShown (c : Char) : Bool := !([7, 8, 11, 12, 13].contains c.toNat)

def shown (cs : List Char) : List Char := (pictured cs.length cs).filter isShown

def styleName (inner : List Char) : String :=
  Text.lower (.ofList (Text.trimEnds Text.isBlank (inner.takeWhile (· ≠ '='))))

/-- Takes the style that was opened last under a name from those that are open. -/
def close (name : String) (opened : List String) : Option (List String) :=
  if name = "" then opened.tail? else if opened.contains name then some (opened.erase name) else none

/-- The text of pieces. Closing what is not open is a fault. -/
def textOf : (opened : List String) → List Piece → Except Fault (List Char)
  | _, [] => .ok []
  | opened, .text cs :: rest => do return shown cs ++ (← textOf opened rest)
  | opened, .tag ('/' :: inner) :: rest =>
    match close (styleName inner) opened with
    | some opened => textOf opened rest
    | none => .error (.plain .value ("closing tag '[/" ++ .ofList inner ++ "]' doesn't match any open tag"))
  | opened, .tag inner :: rest => textOf (styleName inner :: opened) rest

def plain (s : String) : Except Fault String := do
  let cs ← textOf [] ((cuts s.toList).flatMap piecesOf)
  return .ofList cs

end Dismantle.Console.Markup
