import Dismantle.Yaml.Scalar
/-! In which ways a text can be written: as it is, in single quotes, or in double quotes, which
take everything. -/
namespace Dismantle.Yaml

inductive Style where
  | bare | single | double
  deriving DecidableEq, Repr

/-- Characters that mean something at the start of a text. -/
def isIndicator (c : Char) : Bool :=
  c ∈ ['#', ',', '[', ']', '{', '}', '&', '*', '!', '|', '>', '\'', '"', '%', '@', '`']

/-- What a single character leaves open: line feeds and printable ASCII need no escape. -/
def isOrdinary (c : Char) : Bool := c = '\n' ∨ (' ' ≤ c ∧ c ≤ '~')

/-- Blanks next to line feeds: one in front of a line feed, one behind one. -/
def blankBeforeBreak : List Char → Bool
  | ' ' :: '\n' :: _ => true
  | _ :: cs => blankBeforeBreak cs
  | [] => false

def blankAfterBreak : List Char → Bool
  | '\n' :: ' ' :: _ => true
  | _ :: cs => blankAfterBreak cs
  | [] => false

/-- The character behind the first one ends a word there. -/
def firstStandsAlone (cs : List Char) : Bool := separates cs[1]? || cs[1]? = some '\x00'

/-- A colon that ends a word, or a number sign that starts one. -/
def hasMark : List Char → Bool
  | ':' :: cs => separates cs.head? || cs.head? = some '\x00' || hasMark cs
  | c :: '#' :: cs => separates (some c) || c = '\x00' || hasMark ('#' :: cs)
  | _ :: cs => hasMark cs
  | [] => false

/-- The text would be read as something else than text, or not at all. -/
def startsBadly (cs : List Char) : Bool :=
  match cs with
  | [] => false
  | c :: _ =>
    ("---".toList.isPrefixOf cs || "...".toList.isPrefixOf cs) || isIndicator c
      || ((c = '?' || c = ':' || c = '-') && firstStandsAlone cs)

def isEdge (c : Option Char) : Bool := c = some ' ' || c = some '\n'

def allowsBare (cs : List Char) : Bool :=
  Kind.ofText cs = .text && cs.all isOrdinary && !cs.contains '\n' && !isEdge cs.head?
    && !isEdge cs.getLast? && !startsBadly cs && !hasMark cs

def allowsSingle (cs : List Char) : Bool :=
  cs.all isOrdinary && !blankBeforeBreak cs && !blankAfterBreak cs

def styleOf (cs : List Char) : Style :=
  if allowsBare cs then .bare else if allowsSingle cs then .single else .double

/-- A key that stands in front of its colon: short, not empty and on one line. -/
def isSimpleKey (cs : List Char) : Bool :=
  !cs.isEmpty && cs.length < 123
    && cs.all fun c => c ≠ '\n' ∧ c.toNat ≠ 0x85 ∧ c.toNat ≠ 0x2028 ∧ c.toNat ≠ 0x2029

end Dismantle.Yaml
