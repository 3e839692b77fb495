import Dismantle.Environment.Depth
import Dismantle.Proofs.Json.Form
/-! The depth of structured data. It holds no collection inside itself, so what stops its writing is
that it lies too deep, and nothing else does. -/
namespace Dismantle.Yaml.Value

theorem heightOfItems_append (vs ws : List Value) :
    heightOfItems (vs ++ ws) = max (heightOfItems vs) (heightOfItems ws) := by
  induction vs with
  | nil => simp [heightOfItems]
  | cons v vs ih => rw [List.cons_append, heightOfItems, heightOfItems, ih, max_assoc]

theorem heightOfItems_le {vs : List Value} {n : Nat} :
    heightOfItems vs ≤ n ↔ ∀ v ∈ vs, v.height ≤ n := by
  induction vs with
  | nil => simp [heightOfItems]
  | cons v vs ih => rw [heightOfItems, Nat.max_le, ih, List.forall_mem_cons]

theorem heightOfEntries_eq (es : List (Value × Value)) :
    heightOfEntries es = heightOfItems (es.map (·.2)) := by
  induction es with
  | nil => rfl
  | cons e es ih =>
      obtain ⟨k, v⟩ := e
      rw [heightOfEntries, List.map_cons, heightOfItems, ih]

theorem knotOfItems?_eq_none {room : Nat} {vs : List Value} :
    knotOfItems? room vs = none ↔ ∀ v ∈ vs, knot? room v = none := by
  induction vs with
  | nil => simp [knotOfItems?]
  | cons v vs ih => rw [knotOfItems?, Option.or_eq_none_iff, ih, List.forall_mem_cons]

theorem knotOfEntries?_eq (room : Nat) (es : List (Value × Value)) :
    knotOfEntries? room es = knotOfItems? room (es.map (·.2)) := by
  induction es with
  | nil => rfl
  | cons e es ih =>
      obtain ⟨k, v⟩ := e
      rw [knotOfEntries?, List.map_cons, knotOfItems?, ih]

theorem ofJsonItems_eq (items : List Json) : ofJsonItems items = items.map ofJson := by
  induction items with
  | nil => rfl
  | cons x xs ih => rw [ofJsonItems, ih, List.map_cons]

theorem values_ofJsonFields (fs : Fields) :
    (ofJsonFields fs).map (·.2) = fs.map fun f => ofJson f.2 := by
  induction fs with
  | nil => rfl
  | cons f fs ih =>
      obtain ⟨key, v⟩ := f
      rw [ofJsonFields, List.map_cons, ih, List.map_cons]

/-- Structured data can be followed to its ends if it does not lie too deep. -/
theorem knot?_ofJson {v : Json} {room : Nat} :
    knot? room (ofJson v) = none ↔ (ofJson v).height ≤ room := by
  induction v using Json.built generalizing room with
  | arr items ih =>
      cases room with
      | zero => simp [knot?, ofJson, height]
      | succ room =>
          rw [ofJson, knot?, height, Nat.add_le_add_iff_right, ofJsonItems_eq, knotOfItems?_eq_none,
            heightOfItems_le, List.forall_mem_map, List.forall_mem_map]
          exact forall₂_congr fun x member => ih x member
  | obj fields ih =>
      cases room with
      | zero => simp [knot?, ofJson, height]
      | succ room =>
          rw [ofJson, knot?, height, Nat.add_le_add_iff_right, knotOfEntries?_eq, heightOfEntries_eq,
            values_ofJsonFields, knotOfItems?_eq_none, heightOfItems_le, List.forall_mem_map,
            List.forall_mem_map]
          exact forall₂_congr fun f member => ih f member
  | _ => cases room <;> simp [knot?, ofJson, height]

theorem height_obj (fs : Fields) :
    (ofJson (.obj fs)).height = heightOfItems ((Entries.ofFields fs).map (·.2)) + 1 := by
  rw [ofJson, height, heightOfEntries_eq, values_ofJsonFields, Entries.ofFields, List.map_map]
  rfl

end Dismantle.Yaml.Value

namespace Dismantle

def Json.nested : Nat → Json
  | 0 => .obj []
  | n + 1 => .obj [("vm", nested n)]

theorem Json.storable_nested {n room : Nat} (inside : n < room) : (nested n).storable room = true := by
  induction n generalizing room with
  | zero => exact storable_obj.mpr ⟨inside, .nil, List.forall_mem_nil _, List.forall_mem_nil _⟩
  | succ n ih =>
      refine storable_obj.mpr ⟨Nat.zero_lt_of_lt inside, List.pairwise_singleton _ _, ?_, ?_⟩
      · exact List.forall_mem_singleton.mpr (Spelling.lasts_plain _)
      · exact List.forall_mem_singleton.mpr (ih (Nat.lt_sub_of_add_lt inside))

theorem Yaml.Value.ofJson_nested (n : Nat) :
    ofJson (.nested (n + 1)) = .map [(.str "vm", ofJson (.nested n))] := rfl

theorem Yaml.Value.height_nested (n : Nat) : (ofJson (.nested n)).height = n + 1 := by
  induction n with
  | zero => rfl
  | succ n ih => rw [ofJson_nested, height, heightOfEntries, heightOfEntries, Nat.max_zero, ih]

theorem Yaml.Value.knot?_nested {room n : Nat} (deep : room ≤ n) :
    knot? room (ofJson (.nested n)) = some .tooDeep := by
  induction room generalizing n with
  | zero => rw [knot?]
  | succ room ih =>
      obtain ⟨m, rfl⟩ := Nat.exists_eq_add_of_le' (Nat.lt_of_lt_of_le (Nat.succ_pos room) deep)
      rw [ofJson_nested, knot?, knotOfEntries?, ih (Nat.le_of_add_le_add_right deep), Option.some_or]

variable {τ : Type} [Wording τ]

theorem Director.height_eq (d : Director τ) : d.height =
    max (Yaml.Value.heightOfItems (d.credentials.map (·.2)))
      (Yaml.Value.heightOfItems ((Yaml.Entries.ofFields d.state).map (·.2))) := by
  rw [height, data, List.map_append, Yaml.Value.heightOfItems_append]

variable [Limits]

/-- A record of structured data is written if it is not too deep. -/
theorem Environment.written_eq_ok {e : Environment τ}
    (structured : ∃ fs, e.director.credentials = .ofFields fs) {v : Json} :
    e.written = .ok v ↔ e.director.height ≤ Limits.saving ∧ v = e.toJson := by
  have deep : Yaml.Value.knotOfItems? Limits.saving e.director.data = none ↔
      e.director.height ≤ Limits.saving := by
    obtain ⟨fs, same⟩ := structured
    have plain : ∀ w ∈ e.director.data, ∃ x, w = .ofJson x := by
      intro w member
      rw [Director.data, same, Yaml.Entries.ofFields, Yaml.Entries.ofFields, ← List.map_append,
        List.map_map] at member
      obtain ⟨f, -, rfl⟩ := List.mem_map.mp member
      exact ⟨f.2, rfl⟩
    rw [Director.height, Yaml.Value.knotOfItems?_eq_none, Yaml.Value.heightOfItems_le]
    refine forall₂_congr fun w member => ?_
    obtain ⟨x, rfl⟩ := plain w member
    exact Yaml.Value.knot?_ofJson
  unfold written
  cases knot : Yaml.Value.knotOfItems? Limits.saving e.director.data with
  | none => simp [deep.mp knot, eq_comm]
  | some k =>
      have tooDeep : ¬e.director.height ≤ Limits.saving := by
        rw [← deep, knot]
        nofun
      simp [tooDeep]

end Dismantle
