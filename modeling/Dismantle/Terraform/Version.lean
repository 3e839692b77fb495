import Dismantle.Fault.Basic
import Dismantle.Text.Digit
import Dismantle.Text.Quoted
/-! Version numbers: three runs of decimal digits with points between them, found anywhere in a
text. -/
namespace Dismantle.Terraform

structure Version where
  major : Nat
  minor : Nat
  patch : Nat
  deriving DecidableEq, Repr

namespace Version

def text (v : Version) : String :=
  toString v.major ++ "." ++ toString v.minor ++ "." ++ toString v.patch

/-- Versions in order: the first number that differs decides. -/
def atLeast (v least : Version) : Bool :=
  least.major < v.major ∨ (least.major = v.major ∧
    (least.minor < v.minor ∨ (least.minor = v.minor ∧ least.patch ≤ v.patch)))

def digits? (cs : List Char) : Option (List Char × List Char) :=
  match cs.takeWhile Text.isDecimal with
  | [] => none
  | ds => some (ds, cs.dropWhile Text.isDecimal)

/-- The three runs of digits at the front of a text. -/
def atFront? (cs : List Char) : Option (List Char × List Char × List Char) :=
  match digits? cs with
  | some (a, '.' :: cs) => match digits? cs with
    | some (b, '.' :: cs) => match digits? cs with
      | some (c, _) => some (a, b, c)
      | none => none
    | _ => none
  | _ => none

/-- The first place of a text where a version stands. -/
def search : List Char → Option (List Char × List Char × List Char)
  | [] => none
  | c :: cs => match atFront? (c :: cs) with
    | some found => some found
    | none => search cs

/-- Why a text names no version: none stands in it, or one of its numbers is too long. -/
inductive Unreadable where
  | absent (text : String)
  | tooLong (count : Nat)
  deriving DecidableEq, Repr

def Unreadable.text : Unreadable → String
  | .absent s => "invalid terraform version: " ++ Text.quoted s
  | .tooLong count => Json.digitsText count

def Unreadable.fault (u : Unreadable) : Fault := .plain .value u.text

def number (ds : List Char) : Except Unreadable Nat :=
  if Json.maxDigits < ds.length then .error (.tooLong ds.length)
  else .ok (Text.natOfDigits (ds.filterMap Text.digitValue?))

def parse (s : String) : Except Unreadable Version :=
  match search s.toList with
  | none => .error (.absent s)
  | some (a, b, c) => do
    let major ← number a
    let minor ← number b
    let patch ← number c
    return { major, minor, patch }

def minimum : Version := ⟨0, 8, 5⟩

end Version
end Dismantle.Terraform
