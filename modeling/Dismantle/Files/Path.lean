/-! Paths as they are written: empty parts and single dots are left out, double dots stay. -/
namespace Dismantle

/-- An absolute path starts at the root, any other where the program works. -/
structure Path where
  absolute : Bool := false
  parts : List String := []
  deriving DecidableEq, Repr, Inhabited

namespace Path

def splitParts (s : String) : List String :=
  ((s.toList.splitOn '/').map String.ofList).filter fun p => p ≠ "" ∧ p ≠ "."

def ofText (s : String) : Path := ⟨s.startsWith "/", splitParts s⟩

def text (p : Path) : String :=
  let body := "/".intercalate p.parts
  if p.absolute then "/" ++ body else if body = "" then "." else body

/-- A path below another one; an absolute path replaces it. -/
def below (base p : Path) : Path := if p.absolute then p else ⟨base.absolute, base.parts ++ p.parts⟩

def child (base : Path) (name : String) : Path := base.below (ofText name)

def parent (p : Path) : Path := ⟨p.absolute, p.parts.dropLast⟩

/-- The last part with what follows its last point replaced; a leading point starts no suffix. -/
def withSuffix (p : Path) (suffix : String) : Path :=
  match p.parts.getLast? with
  | none => p
  | some name =>
    let back := name.toList.reverse
    let stem := match back.dropWhile (· ≠ '.') with
      | '.' :: front => if front.isEmpty ∨ back.head? = some '.' then name else .ofList front.reverse
      | _ => name
    ⟨p.absolute, p.parts.dropLast ++ [stem ++ suffix]⟩

end Path
end Dismantle
