import Dismantle.Fault.Kind
import Dismantle.Json.Reader
/-! A place in a text that is being read, and the classes of characters that matter there. The end
of the text is a character of its own kind. -/
namespace Dismantle.Yaml

/-- What is wrong with a value that cannot be: some part of it is out of range, or missing. -/
inductive Impossible where
  | plain (kind : PlainKind) (message : String)
  | noAttribute (owner name : String)
  deriving Repr

/-- Why a text is not read: it is malformed, it lies too deep inside one another, or a value in it is
impossible. -/
inductive Refusal where
  | malformed
  | tooDeep
  | impossible (p : Impossible)
  deriving Repr

structure Cursor where
  rest : List Char
  index : Nat := 0
  line : Nat := 0
  column : Nat := 0
  deriving Repr

def isBreak (c : Char) : Bool :=
  c = '\n' ∨ c = '\r' ∨ c.toNat = 0x85 ∨ c.toNat = 0x2028 ∨ c.toNat = 0x2029

def isHex (c : Char) : Bool := (Json.hexValue? c).isSome

/-- Letters, digits, dashes and underscores of ASCII: what names are made of. -/
def isWord (c : Char) : Bool :=
  ('0' ≤ c ∧ c ≤ '9') ∨ ('A' ≤ c ∧ c ≤ 'Z') ∨ ('a' ≤ c ∧ c ≤ 'z') ∨ c = '-' ∨ c = '_'

/-- Characters of a tag; a percent sign starts an escaped one. -/
def isTagChar (c : Char) : Bool := isWord c ∨ c ∈ [';', '/', '?', ':', '@', '&', '=', '+', '$', ',', '.', '!', '~', '*', '\'', '(', ')', '[', ']', '%']

def endsLine : Option Char → Bool
  | some c => isBreak c
  | none => true

def endsWord : Option Char → Bool
  | some c => c = ' ' ∨ isBreak c
  | none => true

def separates (c : Option Char) : Bool := endsWord c || c = some '\t'

namespace Cursor

def peek (c : Cursor) : Option Char := c.rest.head?

def peekAt (c : Cursor) (n : Nat) : Option Char := c.rest[n]?

/-- One character on. A return in front of a line feed ends no line, a byte order mark has no
width. -/
def next (c : Cursor) : Cursor :=
  match c.rest with
  | [] => c
  | x :: rest =>
    let c := { c with rest, index := c.index + 1 }
    if isBreak x ∧ !(x = '\r' ∧ rest.head? = some '\n') then { c with line := c.line + 1, column := 0 }
    else if x = '\ufeff' then c
    else { c with column := c.column + 1 }

def forward (c : Cursor) : (n : Nat) → Cursor
  | 0 => c
  | n + 1 => c.next.forward n

/-- The characters of a class at the front, and the place behind them. -/
def span (c : Cursor) (p : Char → Bool) : List Char × Cursor :=
  let taken := c.rest.takeWhile p
  (taken, c.forward taken.length)

def skip (c : Cursor) (p : Char → Bool) : Cursor := (c.span p).2

/-- A line break at the front as it is read: the usual ones become line feeds. -/
def lineBreak (c : Cursor) : List Char × Cursor :=
  match c.rest with
  | '\r' :: '\n' :: _ => (['\n'], c.forward 2)
  | x :: _ =>
    if x = '\n' ∨ x = '\r' ∨ x.toNat = 0x85 then (['\n'], c.next)
    else if isBreak x then ([x], c.next)
    else ([], c)
  | [] => ([], c)

/-- Three dashes or three dots that stand as a word. -/
def atMark (c : Cursor) (mark : Char) : Bool :=
  c.peek = some mark && c.peekAt 1 = some mark && c.peekAt 2 = some mark && separates (c.peekAt 3)

def atBoundary (c : Cursor) : Bool := c.atMark '-' || c.atMark '.'

def skipComment (c : Cursor) : Cursor :=
  if c.peek = some '#' then c.skip (!isBreak ·) else c

end Cursor
end Dismantle.Yaml
