import Dismantle.Environment.Assign
import Dismantle.Proofs.Environment.Form
/-! Changing one field of a record. A value that the field does not take is reported under the
field's key; one that it takes changes nothing else. What a record is written with, its fields take
back. -/
namespace Dismantle

/-- Everything that is wrong lies under a key. -/
def Invalid.At (i : Invalid) (key : String) : Prop :=
  i.issues ≠ [] ∧ ∀ issue ∈ i.issues, issue.keys.head? = some (.name key)

section
variable {α β : Type} {title key : String} {c : Check β} {put : β → α}

theorem assigned_eq_ok {a : α} (h : assigned title key c put = .ok a) : a = put c.value := by
  unfold assigned at h
  split at h
  case h_1 taken =>
      rw [← Except.ok.inj h, ← Check.value_of_result taken, Check.under]
  case h_2 => cases h

theorem assigned_eq_invalid {i : Invalid} (h : assigned title key c put = .error (.invalid i)) :
    i.At key := by
  unfold assigned at h
  split at h
  case h_1 => cases h
  case h_2 refused =>
      cases h
      unfold Check.result at refused
      split at refused
      case h_1 => cases refused
      case h_2 some =>
          cases refused
          refine ⟨some, fun issue member => ?_⟩
          obtain ⟨inner, -, rfl⟩ := List.mem_map.mp member
          rfl

theorem noField_eq_invalid {i : Invalid}
    (h : (noField title key : Except AssignFault α) = .error (.invalid i)) : i.At key := by
  cases h
  exact ⟨List.cons_ne_nil _ _, List.forall_mem_singleton.mpr rfl⟩

end

namespace Environment
variable {τ : Type} [Wording τ] {e e' : Environment τ} {v : Json}

theorem assignField_eq_invalid {key : String} {i : Invalid}
    (h : e.assignField key v = .error (.invalid i)) : i.At key := by
  unfold assignField at h
  split at h
  case h_10 => exact noField_eq_invalid h
  all_goals exact assigned_eq_invalid h

/-- What is wrong with a value is reported under the field that it was to be assigned to. -/
theorem assign_eq_invalid {keys : List String} {i : Invalid}
    (h : e.assign keys v = .error (.invalid i)) : ∃ front key, keys = front ++ [key] ∧ i.At key := by
  unfold assign at h
  split at h
  case h_1 key => exact ⟨[], key, rfl, assignField_eq_invalid h⟩
  case h_7 => cases h
  all_goals
    refine ⟨[_], _, rfl, ?_⟩
    have refused := Except.map_eq_error h
    simp only [AwsAccount.assign, GcpAccount.assign, KeyPair.assign, Director.assign,
      Stack.assign] at refused
    split at refused
    all_goals first | exact assigned_eq_invalid refused | exact noField_eq_invalid refused

/-- An assignment leaves every part of the record that its keys do not lead to. -/
theorem assign_elsewhere {key other : String} {rest : List String}
    (h : e.assign (key :: rest) v = .ok e') (apart : other ≠ key) :
    e'.toJson.under other = e.toJson.under other := by
  have unlike : (other == key) = false := beq_eq_false_iff_ne.mpr apart
  unfold assign at h
  split at h
  case h_1 same =>
      cases same
      unfold assignField at h
      split at h
      case h_10 => cases h
      all_goals
        rw [assigned_eq_ok h]
        simp [toJson, Json.under, Fields.get?, List.lookup_cons, unlike]
  case h_7 => cases h
  all_goals
    rename_i same
    cases same
    obtain ⟨_, -, rfl⟩ := Except.map_eq_ok h
    simp [toJson, Json.under, Fields.get?, List.lookup_cons, unlike]

theorem putItem_elsewhere {keys : List String} {key other : String}
    (h : e.putItem keys key v = .ok e') (apart : other ≠ "bosh") :
    e'.toJson.under other = e.toJson.under other := by
  have unlike : (other == "bosh") = false := beq_eq_false_iff_ne.mpr apart
  unfold putItem at h
  split at h
  case h_3 => cases h
  all_goals
    cases h
    simp [toJson, Json.under, Fields.get?, List.lookup_cons, unlike]

variable [Limits]

/-- Every field takes the value that the record is written with there, and stays as it is. -/
theorem assignField_written (durable : e.director.Durable) {key : String} (known : key ∈ keys) :
    ∃ v, e.toJson.under key = some v ∧ e.assignField key v = .ok e := by
  simp only [keys, List.mem_cons, List.not_mem_nil, or_false] at known
  rcases known with rfl | rfl | rfl | rfl | rfl | rfl | rfl | rfl | rfl
  all_goals
    refine ⟨_, rfl, ?_⟩
    simp only [assignField, Check.text_ofSpelling, Provider.check_text, AwsAccount.check_toJson,
      GcpAccount.check_toJson, KeyPair.check_toJson, Director.check_toJson, Stack.check_toJson,
      durable.settled]
    rfl

end Environment
end Dismantle
