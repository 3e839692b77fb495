import Dismantle.Environment.Form
import Dismantle.Fault.Basic
import Dismantle.Limits
/-! How deep a record's data lies inside one another. Some work follows it to its end and stops at a
depth that is too much; writing a record stops at data that holds itself as well. -/
namespace Dismantle

namespace Yaml.Value

mutual
/-- The number of values inside one another, the outermost and the innermost included. -/
def height : Value → Nat
  | .list items | .set items => heightOfItems items + 1
  | .pair k v => max k.height v.height + 1
  | .map entries => heightOfEntries entries + 1
  | _ => 1
def heightOfItems : List Value → Nat
  | [] => 0
  | v :: rest => max v.height (heightOfItems rest)
def heightOfEntries : List (Value × Value) → Nat
  | [] => 0
  | (_, v) :: rest => max v.height (heightOfEntries rest)
end

/-- Why values cannot be followed to their ends. -/
inductive Knot where
  | tooDeep | itself
  deriving DecidableEq, Repr

mutual
/-- The first value, in the order of writing, that lies below more than `room` others or is a
collection inside itself. -/
def knot? : (room : Nat) → Value → Option Knot
  | 0, _ => some .tooDeep
  | room + 1, v => match v with
    | .list items | .set items => knotOfItems? room items
    | .pair k v => (knot? room k).or (knot? room v)
    | .map entries => knotOfEntries? room entries
    | .cycle => some .itself
    | _ => none
def knotOfItems? (room : Nat) : List Value → Option Knot
  | [] => none
  | v :: rest => (knot? room v).or (knotOfItems? room rest)
def knotOfEntries? (room : Nat) : List (Value × Value) → Option Knot
  | [] => none
  | (_, v) :: rest => (knot? room v).or (knotOfEntries? room rest)
end

end Yaml.Value

def Yaml.Value.Knot.text : Yaml.Value.Knot → String
  | .tooDeep => "Circular reference detected (depth exceeded)"
  | .itself => "Circular reference detected (id repeated)"

namespace Director

/-- The director's data, the credentials first. -/
def data {τ : Type} [Wording τ] (d : Director τ) : List Yaml.Value := (d.credentials ++ .ofFields d.state).map (·.2)

def height {τ : Type} [Wording τ] (d : Director τ) : Nat := Yaml.Value.heightOfItems d.data

end Director

namespace Environment
variable [Limits] {τ : Type} [Wording τ]

def copy (e : Environment τ) : Except Fault (Environment τ) :=
  if e.director.height ≤ Limits.copying then .ok e else .error .exhausted

/-- The written form of a record, if its data can be followed to its ends. -/
def written (e : Environment τ) : Except Fault Json :=
  match Yaml.Value.knotOfItems? Limits.saving e.director.data with
  | some k => .error (.plain .value k.text)
  | none => .ok e.toJson

end Environment

end Dismantle
