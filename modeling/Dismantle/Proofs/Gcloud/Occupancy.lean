import Dismantle.Proofs.Gcloud.Network
import Dismantle.Proofs.Json.RoundTrip
/-! Which instances keep a network from being deleted, and that the check finds just these. -/
namespace Dismantle.Gcloud

theorem exists_lastSegment {α : Type} [DecidableEq α] (slash : α) (address : List α) :
    ∃ segment, IsLastSegment slash address segment := by
  by_cases member : slash ∈ address
  · have member' := List.mem_reverse.mpr member
    obtain ⟨segment, front, whole, clear⟩ := List.eq_append_cons_of_mem member'
    refine ⟨segment.reverse, mt List.mem_reverse.mp clear, .inr ⟨front.reverse, ?_⟩⟩
    rw [← List.reverse_reverse address, whole]
    simp
  · exact ⟨address, member, .inl rfl⟩

theorem isLastSegment_iff {α : Type} [DecidableEq α] {slash : α} {address segment : List α} :
    IsLastSegment slash address segment ↔ lastSegment slash address = segment := by
  constructor
  · exact lastSegment_eq
  · rintro rfl
    obtain ⟨segment, last⟩ := exists_lastSegment slash address
    rwa [lastSegment_eq last]

/-- Whether an address, if there is one, ends with the name of a network. -/
def leadsTo (network : String) : Option Json → Bool
  | some (.str address) => lastSegment '/' address.toList == network.toList
  | some (.unpaired points) => lastSegment 47 points == network.toList.map Char.toNat
  | _ => false

theorem isAttached_iff {network : String} {interface : Json} :
    IsAttached network interface ↔ leadsTo network (interface.under "network") = true := by
  unfold IsAttached
  rcases interface.under "network" with _ | (_ | _ | _ | _ | s | points | _ | _)
  case some.str => simp [leadsTo, isLastSegment_iff]
  case some.unpaired => simp [leadsTo, isLastSegment_iff]
  all_goals simp [leadsTo]

instance (network : String) : DecidablePred (IsAttached network) :=
  fun _ => decidable_of_iff _ isAttached_iff.symm

/-- Some interface of an instance is attached to a network. -/
def Occupies (network : String) (instance_ : Json) : Prop :=
  ∃ interface ∈ instance_.itemsUnder "networkInterfaces", IsAttached network interface

instance (network : String) : DecidablePred (Occupies network) := fun instance_ =>
  inferInstanceAs (Decidable (∃ i ∈ instance_.itemsUnder "networkInterfaces", IsAttached network i))

def listedAs (instance_ : Json) : String := (instance_.textUnder "name").getD "unnamed"

/-- The names of all instances that are attached to a network, one for each of them. -/
def occupants (network : String) (instances : List Json) : List String :=
  (instances.filter (Occupies network)).map listedAs

theorem occupants_eq_nil {network : String} {instances : List Json} :
    occupants network instances = [] ↔ ∀ i ∈ instances, ¬Occupies network i := by
  simp [occupants]

theorem occupants_cons (network : String) (instance_ : Json) (rest : List Json) :
    occupants network (instance_ :: rest) =
      if Occupies network instance_ then listedAs instance_ :: occupants network rest
      else occupants network rest := by
  by_cases occupies : Occupies network instance_ <;> simp [occupants, occupies]

/-- Text, perhaps with half of a surrogate pair in it. -/
def IsSpelled (v : Json) : Prop := (∃ s, v = .str s) ∨ ∃ points, v = .unpaired points

def IsInterface (interface : Json) : Prop := interface.Admits "network" IsSpelled

structure IsInstance (instance_ : Json) : Prop where
  interfaces : instance_.Admits "networkInterfaces" (Json.IsListOf IsInterface)
  name : instance_.Admits "name" Json.IsText

def IsListing (v : Json) : Prop := v.counts = false ∨ Json.IsListOf IsInstance v

section Formed
variable {network : String}

theorem attached_formed (known : network ≠ "") {interface : Json} (formed : IsInterface interface) :
    attached network interface = .ok (decide (IsAttached network interface)) := by
  obtain ⟨object, spelled⟩ := formed
  have same : decide (IsAttached network interface) = leadsTo network (interface.under "network") := by
    rw [Bool.eq_iff_iff, decide_eq_true_iff, isAttached_iff]
  rw [same]
  simp only [attached, object.find, bind, Except.bind]
  cases under : interface.under "network" with
  | none =>
      simp [leadsTo, lastSegment, pure, Except.pure, known]
  | some v =>
      rcases spelled v under with ⟨s, rfl⟩ | ⟨points, rfl⟩ <;> rfl

theorem anyAttached_formed (known : network ≠ "") {interfaces : List Json}
    (formed : ∀ i ∈ interfaces, IsInterface i) :
    anyAttached network interfaces = .ok (decide (∃ i ∈ interfaces, IsAttached network i)) := by
  induction interfaces with
  | nil => simp [anyAttached]
  | cons interface rest ih =>
      obtain ⟨first, others⟩ := List.forall_mem_cons.mp formed
      simp only [anyAttached, attached_formed known first, bind, Except.bind]
      by_cases here : IsAttached network interface
      · simp [here, pure, Except.pure]
      · simp [here, ih others]

theorem attachedName?_formed (known : network ≠ "") {instance_ : Json}
    (formed : IsInstance instance_) : attachedName? network instance_ =
      .ok (if Occupies network instance_ then some (.str (listedAs instance_)) else none) := by
  obtain ⟨found, hasInterfaces, each⟩ := formed.interfaces.find_items
  have any : anyAttached network (instance_.itemsUnder "networkInterfaces") =
      .ok (decide (Occupies network instance_)) := anyAttached_formed known formed.interfaces.items
  simp only [attachedName?, hasInterfaces, each, any, bind, Except.bind]
  by_cases occupies : Occupies network instance_
  · rw [if_pos (decide_eq_true occupies), formed.name.find_text, if_pos occupies]
    rfl
  · rw [decide_eq_false occupies, if_neg occupies]
    rfl

theorem attachedNames_formed (known : network ≠ "") {instances : List Json}
    (formed : ∀ i ∈ instances, IsInstance i) :
    attachedNames network (.arr instances) = .ok ((occupants network instances).map .str) := by
  have mapped := Except.mapM_of_forall fun i member => attachedName?_formed known (formed i member)
  simp only [attachedNames, Json.each, mapped, bind, Except.bind, pure, Except.pure]
  refine congrArg Except.ok ?_
  clear formed mapped
  induction instances with
  | nil => rfl
  | cons i rest ih =>
      rw [List.map_cons, occupants_cons, List.filterMap_cons, ih]
      by_cases occupies : Occupies network i <;> simp [occupies]

end Formed

/-- A listing stands for its instances; nothing at all stands for none. -/
theorem IsListing.instances {v : Json} (formed : IsListing v) :
    Tool.orElse v (.arr []) = .arr v.elements ∧ ∀ i ∈ v.elements, IsInstance i := by
  rcases formed with none | ⟨instances, rfl, each⟩
  · rw [Json.elements_of_not_counts none, Tool.orElse, if_neg (by simp [none])]
    exact ⟨rfl, List.forall_mem_nil _⟩
  · refine ⟨?_, each⟩
    unfold Tool.orElse
    cases instances <;> rfl

/-- A refusal that tells the names of instances in order, each as often as it is there. -/
def Blocked (network : String) (there : List String) (r : Except Fault Unit) : Prop :=
  ∃ names suggestions, names.Perm there ∧ names.Pairwise (· ≤ ·) ∧
    r = .error (.reported .unsafeDeletion ("network " ++ network ++
      " is not safe to delete; vms still exist: [" ++ ", ".intercalate names ++ "]")
      {} none suggestions)

theorem judgeListing_formed {network : String} (known : network ≠ "") {v : Json}
    (formed : IsListing v) :
    (occupants network v.elements = [] ∧ judgeListing network (Tool.orElse v (.arr [])) = .ok ()) ∨
      (occupants network v.elements ≠ [] ∧
        Blocked network (occupants network v.elements)
          (judgeListing network (Tool.orElse v (.arr [])))) := by
  obtain ⟨settled, each⟩ := formed.instances
  simp only [settled, judgeListing, attachedNames_formed known each, bind, Except.bind]
  by_cases empty : occupants network v.elements = []
  · left
    simp [empty, pure, Except.pure]
  · right
    obtain ⟨names, sorted, perm, ordered⟩ := Json.sortedNames_texts (occupants network v.elements)
    rw [if_neg (by simpa using empty), sorted]
    exact ⟨empty, names, _, perm, ordered, rfl⟩

/-- What the check of a network comes to when its instances have been listed: it passes just when
none of them is attached to the network, and is blocked by those that are. A network does not pass
without a listing. -/
structure Inspected (network : String) (l : Launch) (r : Except Fault Unit) : Prop where
  passes (listing : Json) : Prints l listing → IsListing listing →
    (r = .ok () ↔ ∀ i ∈ listing.elements, ¬Occupies network i)
  blocks (listing : Json) : Prints l listing → IsListing listing →
    (∃ i ∈ listing.elements, Occupies network i) →
      Blocked network (occupants network listing.elements) r
  unlisted : (∀ listing, ¬Prints l listing) → r ≠ .ok ()

theorem inspected_of_answer {network : String} (known : network ≠ "") {l : Launch}
    {answer : Except Fault Json} (read : ∀ v, answer = .ok v ↔ Prints l v) :
    Inspected network l
      (answer >>= fun v => judgeListing network (Tool.orElse v (.arr []))) where
  passes listing printed formed := by
    rw [(read listing).mpr printed, ← occupants_eq_nil]
    rcases judgeListing_formed known formed with ⟨none, passed⟩ | ⟨some_, names, _, -, -, refused⟩
    · exact iff_of_true passed none
    · refine iff_of_false (fun passed => ?_) some_
      cases passed.symm.trans refused
  blocks listing printed formed occupied := by
    rw [(read listing).mpr printed]
    rcases judgeListing_formed known formed with ⟨none, -⟩ | ⟨-, blocked⟩
    · obtain ⟨i, member, occupies⟩ := occupied
      exact absurd occupies (occupants_eq_nil.mp none i member)
    · exact blocked
  unlisted silent passed := by
    obtain ⟨listing, told, -⟩ := Except.bind_eq_ok passed
    exact silent listing ((read listing).mp told)

/-- One instance twice in the network, one in it and in another one whose name ends alike, one that
says nothing of its name, and one that says nothing. -/
def crowd : Json :=
  let interface (address : String) : Json := .obj [("network", .str address)]
  .arr [
    .obj [("name", .str "worker"), ("networkInterfaces", .arr
      [interface "global/networks/net", interface "global/networks/net"])],
    .obj [("name", .str "broker"), ("networkInterfaces", .arr
      [interface "global/networks/my-net", interface "net"])],
    .obj [("networkInterfaces", .arr [interface "global/networks/my-net", .obj []])],
    .obj []]

def crowdedHost : Host := { replies := [{ ending := .exited 0 crowd.line "" }] }

end Dismantle.Gcloud
