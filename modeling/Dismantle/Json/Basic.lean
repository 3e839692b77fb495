import Dismantle.Number.Binary64
import Dismantle.Text.Spelling
/-! Structured data: what a state file, a service reply or a tool's output holds. The fields of
an object keep the order in which their keys first appeared. -/
namespace Dismantle

/-- `unpaired` is text with half of a surrogate pair in it, given by its code points. -/
inductive Json where
  | null
  | bool (b : Bool)
  | int (i : Int)
  | float (d : Binary64)
  | str (s : String)
  | unpaired (points : List Nat)
  | arr (items : List Json)
  | obj (fields : List (Spelling × Json))
  deriving Inhabited, Repr, BEq

abbrev Fields := List (Spelling × Json)

namespace Fields

section
variable {α : Type}

/-- Gives a key a value, in the key's place if it has one and at the end otherwise. -/
def put : List (Spelling × α) → Spelling → α → List (Spelling × α)
  | [], key, v => [(key, v)]
  | (k, w) :: rest, key, v => if k = key then (k, v) :: rest else (k, w) :: put rest key v

theorem lookup_cons (f : Spelling × α) (rest : List (Spelling × α)) (key : Spelling) :
    List.lookup key (f :: rest) = if key = f.1 then some f.2 else rest.lookup key := by
  rw [List.lookup_cons]
  by_cases same : key = f.1
  · rw [if_pos same, beq_iff_eq.mpr same]
  · rw [if_neg same, beq_false_of_ne same]

theorem lookup_put (fs : List (Spelling × α)) (key other : Spelling) (v : α) :
    (put fs key v).lookup other = if other = key then some v else fs.lookup other := by
  induction fs with
  | nil => exact lookup_cons (key, v) [] other
  | cons f rest ih =>
    rw [put]
    split
    case isTrue place =>
      subst place
      rw [lookup_cons, lookup_cons]
      split <;> rfl
    case isFalse place =>
      rw [lookup_cons, lookup_cons, ih]
      by_cases here : other = f.1
      · rw [if_pos here, if_neg (here ▸ place), if_pos here]
      · rw [if_neg here, if_neg here]

theorem keys_put (fs : List (Spelling × α)) (key : Spelling) (v : α) :
    (put fs key v).map Prod.fst
      = if key ∈ fs.map Prod.fst then fs.map Prod.fst else fs.map Prod.fst ++ [key] := by
  induction fs with
  | nil => simp [put]
  | cons f rest ih =>
    obtain ⟨k, w⟩ := f
    by_cases hk : k = key
    · simp [put, hk]
    · have hk' : key ≠ k := fun h => hk h.symm
      by_cases hm : key ∈ rest.map Prod.fst <;> simp_all [put]

end

def get? (fs : Fields) (key : Spelling) : Option Json := List.lookup key fs

/-- Fields in order of appearance; of several values for one key the last one counts. -/
def ofPairs (ps : List (Spelling × Json)) : Fields := ps.foldl (fun fs p => put fs p.1 p.2) []

end Fields

namespace Json

def maxDigits : Nat := 4300

/-- Absent, false, zero and empty values do not count. -/
def counts : Json → Bool
  | .null => false
  | .bool b => b
  | .int i => i != 0
  | .float d => !d.equal (.zero false)
  | .str s => s != ""
  | .unpaired _ => true
  | .arr items => !items.isEmpty
  | .obj fields => !fields.isEmpty

def ofSpelling : Spelling → Json
  | .plain s => .str s
  | .broken points => .unpaired points

def spelling? : Json → Option Spelling
  | .str s => some s
  | .unpaired points => some (.broken points)
  | _ => none

def text? : Json → Option String
  | .str s => some s
  | _ => none

/-- Numbers by value, a truth value being one or zero. -/
def number? : Json → Option (Int ⊕ Binary64)
  | .bool b => some (.inl (if b then 1 else 0))
  | .int i => some (.inl i)
  | .float d => some (match d.toInt? with | some i => .inl i | none => .inr d)
  | _ => none

mutual
/-- Equality by value: numbers of different kinds may be equal and the order of fields does not
matter. A number that is none is the same as itself. -/
def same : Json → Json → Bool
  | .arr xs, .arr ys => sameItems xs ys
  | .obj fs, .obj gs => fs.length == gs.length && sameFields fs gs
  | .null, .null => true
  | .str s, .str t => s == t
  | .unpaired s, .unpaired t => s == t
  | a, b => match a.number?, b.number? with
    | some (.inl i), some (.inl j) => i == j
    | some (.inr x), some (.inr y) => x == y
    | _, _ => false
def sameItems : List Json → List Json → Bool
  | [], [] => true
  | x :: xs, y :: ys => x.same y && sameItems xs ys
  | _, _ => false
def sameFields : List (Spelling × Json) → Fields → Bool
  | [], _ => true
  | (k, v) :: rest, gs => (match gs.get? k with | some w => v.same w | none => false)
    && sameFields rest gs
end

end Json
end Dismantle
