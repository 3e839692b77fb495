/-! Checking data against a form. A check goes on after a fault, so that everything that is wrong
is listed, each fault under the keys that lead to it. -/
namespace Dismantle

/-- What can be wrong with a value. -/
inductive Problem where
  | notText | brokenText | emptyText | unmatched (pattern : String)
  | notWhole | unreadableNumber | fractional | tooLarge | notFinite
  | notProvider | notSection (title : String) | notMapping
  | unknownKey | noAttribute (name : String)
  deriving DecidableEq, Repr

def Problem.text : Problem → String
  | .notText => "Input should be a valid string"
  | .brokenText => "Input should be a valid string, unable to parse raw data as a unicode string"
  | .emptyText => "String should have at least 1 character"
  | .unmatched pattern => "String should match pattern '" ++ pattern ++ "'"
  | .notWhole => "Input should be a valid integer"
  | .unreadableNumber => "Input should be a valid integer, unable to parse string as an integer"
  | .fractional => "Input should be a valid integer, got a number with a fractional part"
  | .tooLarge => "Unable to parse input string as an integer, exceeded maximum size"
  | .notFinite => "Input should be a finite number"
  | .notProvider => "Input should be '', 'aws' or 'gcp'"
  | .notSection title => "Input should be a valid dictionary or instance of " ++ title
  | .notMapping => "Input should be a valid dictionary"
  | .unknownKey => "Extra inputs are not permitted"
  | .noAttribute name => "Object has no attribute '" ++ name ++ "'"

/-- A step on the way to a value; mappings may have numbers as keys. -/
inductive Key where
  | name (s : String)
  | number (i : Int)
  deriving DecidableEq, Repr

def Key.text : Key → String
  | .name s => s
  | .number i => toString i

structure Issue where
  keys : List Key
  problem : Problem
  deriving DecidableEq, Repr

/-- The faults of a value that should have had the form `title`. -/
structure Invalid where
  title : String
  issues : List Issue
  deriving DecidableEq, Repr

def Invalid.headline (i : Invalid) : String :=
  let n := i.issues.length
  toString n ++ (if n = 1 then " validation error for " else " validation errors for ") ++ i.title

/-- A value together with what is wrong with it; a value with faults is not to be used. -/
structure Check (α : Type) where
  value : α
  issues : List Issue

instance : Monad Check where
  pure a := ⟨a, []⟩
  bind c f := let d := f c.value; ⟨d.value, c.issues ++ d.issues⟩

namespace Check

def fail {α : Type} (value : α) (problem : Problem) : Check α := ⟨value, [⟨[], problem⟩]⟩

/-- The faults found below a key. -/
def under {α : Type} (key : String) (c : Check α) : Check α :=
  ⟨c.value, c.issues.map fun i => ⟨.name key :: i.keys, i.problem⟩⟩

def result {α : Type} (title : String) (c : Check α) : Except Invalid α :=
  match c.issues with
  | [] => .ok c.value
  | issues => .error ⟨title, issues⟩

/-- Faults for the keys that the form does not know, in order. -/
def unknownKeys (known keys : List String) : Check Unit :=
  ⟨(), (keys.filter fun k => !known.contains k).map fun k => ⟨[.name k], .unknownKey⟩⟩

end Check
end Dismantle
