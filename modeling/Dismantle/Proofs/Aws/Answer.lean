import Dismantle.Aws.Network
import Dismantle.Proofs.Json.Access
import Dismantle.Proofs.Text.Lines
/-! What a service's answers say about a stack and about the instances in a network, and that this
is what is read from them. -/
namespace Dismantle

namespace Aws

def firstStack (answer : Json) : Option Json := (answer.itemsUnder "Stacks").head?

def IsDeleted (stack : Json) : Prop := stack.under "StackStatus" = some (.str "DELETE_COMPLETE")

def keyed (key : String) (output : Json) : Bool :=
  (output.under "OutputKey").map keyOf = some (.plain key)

/-- The identifier of a stack's network: the value of the last output with its key. -/
def networkOf (stack : Json) : Option Json :=
  ((stack.itemsUnder "Outputs").filter (keyed Teardown.vpcOutput)).getLast?.bind
    (·.under "OutputValue")

def instancesOn (page : Json) : List Json :=
  (page.itemsUnder "Reservations").flatMap (·.itemsUnder "Instances")

/-- The first tag with the key `Name` has the value `name`. -/
inductive Tagged (name : String) : List Json → Prop where
  | here {tag : Json} {rest : List Json} : tag.under "Key" = some (.str "Name") →
      tag.under "Value" = some (.str name) → Tagged name (tag :: rest)
  | later {tag : Json} {rest : List Json} : tag.under "Key" ≠ some (.str "Name") →
      Tagged name rest → Tagged name (tag :: rest)

/-- The instance is the stack's own or the director's. -/
def IsOwned (instance_ : Json) : Prop :=
  Tagged "NAT" (instance_.itemsUnder "Tags") ∨ Tagged "bosh/0" (instance_.itemsUnder "Tags")

theorem saysMissing_iff {f : ServiceFault} : saysMissing f = true ↔
    f.code = some "ValidationError" ∧ "does not exist".toList <:+: (f.message.getD "").toList := by
  rw [saysMissing, Bool.and_eq_true, decide_eq_true_eq, Text.occursIn_iff]

theorem outputOf_eq_ok {output : Json} {p : Spelling × Json} (h : outputOf output = .ok p) :
    output.IsObject ∧ (output.under "OutputKey").map keyOf = some p.1 ∧
      p.2 = (output.under "OutputValue").getD (.str "") := by
  obtain ⟨key, hasKey, h⟩ := Except.bind_eq_ok h
  obtain ⟨value, found, h⟩ := Except.bind_eq_ok h
  cases h
  have keyed := Json.demand_eq_ok hasKey
  obtain ⟨object, same⟩ := Json.find_eq_ok found
  exact ⟨object, by rw [keyed]; rfl, same⟩

theorem get?_outputs {outputs : List Json} {ps : List (Spelling × Json)}
    (read : List.Forall₂ (fun o p => outputOf o = .ok p) outputs ps) (key : String) :
    ((Fields.ofPairs ps).get? (.plain key)).getD (.str "") =
      ((outputs.filter (keyed key)).getLast?.bind (·.under "OutputValue")).getD (.str "") := by
  let value (o : Json) : Json := (o.under "OutputValue").getD (.str "")
  have values : (ps.filter fun p => p.1 = .plain key).map (·.2) = (outputs.filter (keyed key)).map value := by
    induction read with
    | nil => rfl
    | cons first _ ih =>
        obtain ⟨-, hasKey, hasValue⟩ := outputOf_eq_ok first
        simp only [List.filter_cons, keyed, hasKey, Option.some.injEq]
        split
        · rw [List.map_cons, List.map_cons, ih, hasValue]
        · exact ih
  rw [Fields.get?_ofPairs, ← List.getLast?_map, values, List.getLast?_map]
  cases (outputs.filter (keyed key)).getLast? <;> rfl

theorem describedStack_eq_ok {name : String} {answer : Json} {d : Teardown.StackDescription}
    (h : describedStack name answer = .ok d) : ∃ stack, firstStack answer = some stack ∧
      ¬IsDeleted stack ∧ d.vpcId = (networkOf stack).getD (.str "") := by
  obtain ⟨found, hasStacks, h⟩ := Except.bind_eq_ok h
  dsimp only at h
  split at h
  case isTrue => cases h
  obtain ⟨stack, first, h⟩ := Except.bind_eq_ok h
  obtain ⟨status, hasStatus, h⟩ := Except.bind_eq_ok h
  split at h
  case isTrue => cases h
  case isFalse present =>
  obtain ⟨outputs, found, h⟩ := Except.bind_eq_ok h
  obtain ⟨each, parts, h⟩ := Except.bind_eq_ok h
  obtain ⟨ps, mapped, h⟩ := Except.bind_eq_ok h
  obtain ⟨_, -, h⟩ := Except.bind_eq_ok h
  obtain ⟨_, -, h⟩ := Except.bind_eq_ok h
  cases h
  refine ⟨stack, ?_, ?_, ?_⟩
  · rw [firstStack, Json.itemsUnder_eq hasStacks]
    exact Json.elements_of_first first (Json.find_eq_ok hasStatus).1
  · intro deleted
    obtain ⟨-, rfl⟩ := Json.find_eq_ok hasStatus
    rw [deleted] at present
    exact present rfl
  · have read := Except.mapM_eq_ok mapped
    have listed := Json.elements_of_mapM parts mapped fun _ _ read => (outputOf_eq_ok read).1
    rw [networkOf, Json.itemsUnder_eq found, listed]
    exact get?_outputs read Teardown.vpcOutput

theorem outputOf_malformed {output : Json} {f : Fault} (h : outputOf output = .error f) :
    f.isMalformed = true := by
  rcases Except.bind_eq_error h with failed | ⟨key, -, h⟩
  · exact Json.demand_malformed failed
  · rcases Except.bind_eq_error h with failed | ⟨value, -, h⟩
    · exact Json.find_malformed failed
    · cases h

theorem describedStack_missing {name other : String} {answer : Json}
    (h : describedStack name answer = .error (.missingStack other)) :
    ∀ stack, firstStack answer = some stack → IsDeleted stack := by
  obtain ⟨found, hasStacks, h⟩ := Except.bind_eq_error_of_ne h
    fun failed => nomatch Json.find_malformed failed
  dsimp only at h
  split at h
  case isTrue none =>
      intro stack first
      rw [firstStack, Json.itemsUnder_eq hasStacks,
        Json.elements_of_not_counts (by simpa using none)] at first
      cases first
  case isFalse =>
  obtain ⟨stack, first, h⟩ := Except.bind_eq_error_of_ne h
    fun failed => nomatch Json.first_malformed failed
  obtain ⟨status, hasStatus, h⟩ := Except.bind_eq_error_of_ne h
    fun failed => nomatch Json.find_malformed failed
  split at h
  case isTrue complete =>
      have described := Json.elements_of_first first (Json.find_eq_ok hasStatus).1
      intro other same
      rw [firstStack, Json.itemsUnder_eq hasStacks, described] at same
      cases same
      exact Json.under_eq_of_same hasStatus complete
  -- All that is left to fail is looking into an answer that is not formed as expected.
  case isFalse =>
  obtain ⟨outputs, -, h⟩ := Except.bind_eq_error_of_ne h
    fun failed => nomatch Json.find_malformed failed
  obtain ⟨each, -, h⟩ := Except.bind_eq_error_of_ne h
    fun failed => nomatch Json.each_malformed failed
  have read (f : Fault) (failed : each.mapM outputOf = .error f) : f.isMalformed = true := by
    obtain ⟨output, -, failed⟩ := Except.mapM_eq_error failed
    exact outputOf_malformed failed
  obtain ⟨ps, -, h⟩ := Except.bind_eq_error_of_ne h fun failed => nomatch read _ failed
  obtain ⟨_, -, h⟩ := Except.bind_eq_error_of_ne h
    fun failed => nomatch Json.demand_malformed failed
  obtain ⟨_, -, h⟩ := Except.bind_eq_error_of_ne h
    fun failed => nomatch Json.find_malformed failed
  cases h

theorem nameTag_eq_ok {tags : List Json} {name : String} (h : nameTag tags = .ok (.str name))
    (some_ : name ≠ "") : Tagged name tags := by
  induction tags with
  | nil =>
      cases h
      exact absurd rfl some_
  | cons tag rest ih =>
      obtain ⟨key, found, h⟩ := Except.bind_eq_ok h
      split at h
      case isTrue same =>
          refine .here (Json.under_eq_of_same found same) ?_
          obtain ⟨-, same⟩ := Json.find_eq_ok h
          cases under : tag.under "Value" with
          | none =>
              rw [under] at same
              cases same
              exact absurd rfl some_
          | some v =>
              rw [under] at same
              exact congrArg some same.symm
      case isFalse other =>
          refine .later (fun under => other ?_) (ih h)
          obtain ⟨-, rfl⟩ := Json.find_eq_ok found
          rw [under]
          rfl

theorem instanceName_eq_ok {instance_ : Json} {name : String}
    (h : instanceName instance_ = .ok (.str name)) (some_ : name ≠ "") :
    Tagged name (instance_.itemsUnder "Tags") := by
  obtain ⟨found, hasTags, h⟩ := Except.bind_eq_ok h
  obtain ⟨tags, each, h⟩ := Except.bind_eq_ok h
  rw [Json.itemsUnder_eq hasTags, Json.elements_of_each each]
  · exact nameTag_eq_ok h some_
  · cases tags with
    | nil => exact nofun
    | cons tag rest =>
        rintro x ⟨⟩
        obtain ⟨key, found, -⟩ := Except.bind_eq_ok h
        exact (Json.find_eq_ok found).1

theorem instanceName_isObject {instance_ name : Json} (h : instanceName instance_ = .ok name) :
    instance_.IsObject := by
  obtain ⟨found, hasTags, -⟩ := Except.bind_eq_ok h
  exact (Json.find_eq_ok hasTags).1

theorem foreignName?_isObject {instance_ : Json} {name : Option Json}
    (h : foreignName? instance_ = .ok name) : instance_.IsObject := by
  obtain ⟨name, named, -⟩ := Except.bind_eq_ok h
  exact instanceName_isObject named

theorem foreignName?_eq_none {instance_ : Json} (h : foreignName? instance_ = .ok none) :
    IsOwned instance_ := by
  obtain ⟨name, named, h⟩ := Except.bind_eq_ok h
  split at h
  case isTrue own =>
      simp only [ownNames, List.any_cons, List.any_nil, Bool.or_false, Bool.or_eq_true,
        Json.same_str] at own
      rcases own with rfl | rfl
      · exact .inl (instanceName_eq_ok named (by decide))
      · exact .inr (instanceName_eq_ok named (by decide))
  case isFalse => cases h

theorem foreignInReservation_isObject {reservation : Json} {names : List Json}
    (h : foreignInReservation reservation = .ok names) : reservation.IsObject := by
  obtain ⟨found, hasInstances, -⟩ := Except.bind_eq_ok h
  exact (Json.find_eq_ok hasInstances).1

theorem foreignInReservation_eq_nil {reservation : Json}
    (h : foreignInReservation reservation = .ok []) :
    ∀ i ∈ reservation.itemsUnder "Instances", IsOwned i := by
  obtain ⟨found, hasInstances, h⟩ := Except.bind_eq_ok h
  obtain ⟨instances, each, h⟩ := Except.bind_eq_ok h
  obtain ⟨names, mapped, h⟩ := Except.bind_eq_ok h
  rw [Json.itemsUnder_eq hasInstances,
    Json.elements_of_mapM each mapped fun _ _ => foreignName?_isObject]
  intro i member
  obtain ⟨name, among, same⟩ := Except.mapM_mem mapped member
  have unnamed : names.filterMap id = [] := Except.ok.inj h
  have owned : name = none := List.filterMap_eq_nil_iff.mp unnamed name among
  rw [owned] at same
  exact foreignName?_eq_none same

theorem foreignOnPage_eq_nil {page : Json} (h : foreignOnPage page = .ok []) :
    ∀ i ∈ instancesOn page, IsOwned i := by
  obtain ⟨found, hasReservations, h⟩ := Except.bind_eq_ok h
  obtain ⟨reservations, each, h⟩ := Except.bind_eq_ok h
  obtain ⟨names, mapped, h⟩ := Except.bind_eq_ok h
  rw [instancesOn, Json.itemsUnder_eq hasReservations,
    Json.elements_of_mapM each mapped fun _ _ => foreignInReservation_isObject]
  intro i member
  obtain ⟨reservation, member, inside⟩ := List.mem_flatMap.mp member
  obtain ⟨found, among, same⟩ := Except.mapM_mem mapped member
  have unnamed : names.flatten = [] := Except.ok.inj h
  rw [List.flatten_eq_nil_iff.mp unnamed found among] at same
  exact foreignInReservation_eq_nil same i inside

theorem foreignInListing_eq_nil {reply : CloudReply} (h : foreignInListing reply = .ok []) :
    reply.fault = none ∧ ∀ page ∈ reply.pages, ∀ i ∈ instancesOn page, IsOwned i := by
  obtain ⟨found, mapped, h⟩ := Except.bind_eq_ok h
  split at h
  case h_1 => cases h
  case h_2 ended =>
      refine ⟨ended, fun page member => ?_⟩
      obtain ⟨names, among, same⟩ := Except.mapM_mem mapped member
      have unnamed : found.flatten = [] := Except.ok.inj h
      rw [List.flatten_eq_nil_iff.mp unnamed names among] at same
      exact foreignOnPage_eq_nil same

end Aws
end Dismantle
