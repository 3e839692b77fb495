import Dismantle.Proofs.Settings.Fields
import Dismantle.Settings.Load
import Mathlib.Data.List.Nodup
/-! What is in force where a file and a user both say something: what the user says, unless it is
null, and else what the file says. -/
namespace Dismantle

namespace Settings
namespace Given
variable {name : Spelling}

def names (g : Given) : List Spelling := g.map (·.1)

theorem lookup_of_notMem {g : Given} (absent : name ∉ g.names) : g.lookup name = none := by
  induction g with
  | nil => rfl
  | cons e rest ih =>
      obtain ⟨apart, later⟩ := not_or.mp fun found => absent (List.mem_cons.mpr found)
      rw [Fields.lookup_cons, if_neg apart, ih later]

theorem names_put (g : Given) (name : Spelling) (v : Yaml.Value) :
    names (Fields.put g name v) = if name ∈ g.names then g.names else g.names ++ [name] :=
  Fields.keys_put g name v

/-- Values that take the place of others, or come behind them. -/
def under (g above : Given) : Given := above.foldl (fun g o => Fields.put g o.1 o.2) g

theorem lookup_under {above : Given} (distinct : above.names.Nodup) (g : Given) (name : Spelling) :
    (g.under above).lookup name = (above.lookup name).or (g.lookup name) := by
  induction above generalizing g with
  | nil => rfl
  | cons o rest ih =>
      obtain ⟨new, others⟩ : o.1 ∉ names rest ∧ (names rest).Nodup := List.nodup_cons.mp distinct
      change (under (Fields.put g o.1 o.2) rest).lookup name = _
      rw [ih others, Fields.lookup_put, Fields.lookup_cons]
      by_cases here : name = o.1
      · rw [if_pos here, if_pos here, lookup_of_notMem (here ▸ new)]
        rfl
      · rw [if_neg here, if_neg here]

theorem names_under {above : Given} (distinct : above.names.Nodup) (g : Given) :
    (g.under above).names = g.names ++ above.names.filter (· ∉ g.names) := by
  induction above generalizing g with
  | nil => exact (List.append_nil _).symm
  | cons o rest ih =>
      obtain ⟨new, others⟩ : o.1 ∉ names rest ∧ (names rest).Nodup := List.nodup_cons.mp distinct
      change names (under (Fields.put g o.1 o.2) rest) = g.names ++ (o.1 :: names rest).filter (· ∉ g.names)
      rw [ih others, names_put]
      by_cases member : o.1 ∈ g.names
      · rw [if_pos member, List.filter_cons_of_neg (by simpa using member)]
      · have same : (names rest).filter (· ∉ g.names ++ [o.1]) = (names rest).filter (· ∉ g.names) := by
          refine List.filter_congr fun name there => ?_
          have apart : name ≠ o.1 := fun same => new (same ▸ there)
          simp [apart]
        rw [if_neg member, List.filter_cons_of_pos (by simpa using member), same, List.append_assoc]
        rfl

end Given
end Settings

namespace Configuration
open Settings

def tells : Yaml.Value → Bool
  | .null => false
  | _ => true

def telling (overrides : Given) : Given := overrides.filter (tells ·.2)

/-- The value of a name: what the user gives unless it is null, else what the file says. -/
def inForce (file overrides : Given) (name : Spelling) : Option Yaml.Value :=
  match overrides.lookup name with
  | none | some .null => file.lookup name
  | some v => some v

/-- The names of the file, and behind them those that only the user gives a value. -/
def namesInForce (file overrides : Given) : List Spelling :=
  file.names ++ (telling overrides).names.filter (· ∉ file.names)

section
variable {file overrides : Given}

theorem names_telling_sublist : (telling overrides).names.Sublist overrides.names :=
  List.filter_sublist.map _

theorem lookup_telling (distinct : overrides.names.Nodup) (name : Spelling) :
    (telling overrides).lookup name = (overrides.lookup name).filter tells := by
  induction overrides with
  | nil => rfl
  | cons o rest ih =>
      obtain ⟨new, others⟩ : o.1 ∉ Given.names rest ∧ (Given.names rest).Nodup :=
        List.nodup_cons.mp distinct
      rw [Fields.lookup_cons]
      by_cases told : tells o.2 = true
      · have front : telling (o :: rest) = o :: telling rest := List.filter_cons_of_pos told
        rw [front, Fields.lookup_cons]
        split
        case isTrue => rw [Option.filter_some_pos told]
        case isFalse => exact ih others
      · have skipped : telling (o :: rest) = telling rest := List.filter_cons_of_neg told
        rw [skipped]
        split
        case isTrue here =>
            rw [Option.filter_some_neg (eq_false_of_ne_true told)]
            refine Given.lookup_of_notMem fun member => new ?_
            exact here ▸ names_telling_sublist.subset member
        case isFalse => exact ih others

theorem inForce_eq (distinct : overrides.names.Nodup) (file : Given) (name : Spelling) :
    inForce file overrides name = ((telling overrides).lookup name).or (file.lookup name) := by
  rw [lookup_telling distinct, inForce]
  split
  case h_1 none => rw [none]; rfl
  case h_2 null => rw [null]; rfl
  case h_3 v other found =>
    rw [found]
    cases v with
    | null => exact absurd rfl (other)
    | _ => rfl

theorem overridden_eq (file overrides : Given) :
    overridden file overrides = file.under (telling overrides) := by
  rw [overridden, Given.under, telling, List.foldl_filter]
  congr 1
  funext g o
  obtain ⟨name, v⟩ := o
  cases v <;> rfl

theorem lookup_overridden (distinct : overrides.names.Nodup) (name : Spelling) :
    (overridden file overrides).lookup name = inForce file overrides name := by
  rw [overridden_eq, Given.lookup_under (names_telling_sublist.nodup distinct),
    inForce_eq distinct]

theorem names_overridden (distinct : overrides.names.Nodup) :
    (overridden file overrides).names = namesInForce file overrides := by
  rw [overridden_eq, Given.names_under (names_telling_sublist.nodup distinct), namesInForce]

end

end Configuration
end Dismantle
