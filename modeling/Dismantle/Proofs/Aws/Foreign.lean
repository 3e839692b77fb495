import Dismantle.Proofs.Aws.Desk
import Dismantle.Proofs.Fault.Classify
/-! Which instances keep a network from being deleted, and that the check finds just these. -/
namespace Dismantle.Aws

/-- What the first of the tags with the key `Name` says, if there is one. -/
def nameAmong (tags : List Json) : String :=
  ((tags.find? fun tag => tag.textUnder "Key" = some "Name").bind (·.textUnder "Value")).getD ""

def nameOf (instance_ : Json) : String := nameAmong (instance_.itemsUnder "Tags")

theorem nameAmong_cons (tag : Json) (rest : List Json) : nameAmong (tag :: rest) =
    if tag.textUnder "Key" = some "Name" then (tag.textUnder "Value").getD "" else nameAmong rest := by
  by_cases named : tag.textUnder "Key" = some "Name" <;> simp [nameAmong, named]

theorem tagged_iff {name : String} {tags : List Json} (some_ : name ≠ "") :
    Tagged name tags ↔ nameAmong tags = name := by
  induction tags with
  | nil => exact ⟨nofun, fun none => absurd none.symm some_⟩
  | cons tag rest ih =>
      rw [nameAmong_cons]
      split
      case isTrue named =>
          have under := Json.textUnder_eq_some.mp named
          constructor
          · intro tagged
            cases tagged with
            | here key value => rw [Json.textUnder_eq_some.mpr value, Option.getD_some]
            | later other => exact absurd under other
          · intro same
            cases value : tag.textUnder "Value" with
            | none =>
                rw [value] at same
                exact absurd same.symm some_
            | some told =>
                rw [value] at same
                cases same
                exact .here under (Json.textUnder_eq_some.mp value)
      case isFalse unnamed =>
          rw [← ih]
          constructor
          · intro tagged
            cases tagged with
            | here key => exact absurd (Json.textUnder_eq_some.mpr key) unnamed
            | later other tagged => exact tagged
          · exact .later fun key => unnamed (Json.textUnder_eq_some.mpr key)

theorem isOwned_iff (instance_ : Json) : IsOwned instance_ ↔ nameOf instance_ ∈ ownNames := by
  rw [IsOwned, tagged_iff (by decide), tagged_iff (by decide)]
  simp only [ownNames, nameOf, List.mem_cons, List.not_mem_nil, or_false]

instance : DecidablePred IsOwned := fun i => decidable_of_iff _ (isOwned_iff i).symm

def listedAs (instance_ : Json) : String :=
  if nameOf instance_ = "" then "unnamed" else nameOf instance_

def foreignNames (instances : List Json) : List String :=
  (instances.filter fun i => ¬IsOwned i).map listedAs

theorem foreignNames_flatMap (f : Json → List Json) (xs : List Json) :
    foreignNames (xs.flatMap f) = xs.flatMap fun x => foreignNames (f x) := by
  simp only [foreignNames, List.filter_flatMap, List.map_flatMap]

theorem foreignNames_eq_nil {instances : List Json} :
    foreignNames instances = [] ↔ ∀ i ∈ instances, IsOwned i := by
  simp [foreignNames]

structure IsTag (tag : Json) : Prop where
  key : tag.Admits "Key" Json.IsText
  value : tag.Admits "Value" Json.IsText

def IsInstance (instance_ : Json) : Prop := instance_.Admits "Tags" (Json.IsListOf IsTag)

def IsReservation (reservation : Json) : Prop :=
  reservation.Admits "Instances" (Json.IsListOf IsInstance)

def IsPage (page : Json) : Prop := page.Admits "Reservations" (Json.IsListOf IsReservation)

theorem nameTag_formed {tags : List Json} (formed : ∀ tag ∈ tags, IsTag tag) :
    nameTag tags = .ok (.str (nameAmong tags)) := by
  induction tags with
  | nil => rfl
  | cons tag rest ih =>
      obtain ⟨first, others⟩ := List.forall_mem_cons.mp formed
      have named : ((tag.under "Key").getD .null).same (.str "Name") = true ↔
          tag.textUnder "Key" = some "Name" := by
        rw [Json.same_str, Json.textUnder_eq_some]
        cases tag.under "Key" <;> simp
      simp only [nameTag, first.key.1.find, nameAmong_cons, bind, Except.bind]
      by_cases key : tag.textUnder "Key" = some "Name"
      · rw [if_pos (named.mpr key), if_pos key]
        exact (first.value.1.find _ _).symm.trans (first.value.find_text "")
      · rw [if_neg (named.not.mpr key), if_neg key, ih others]

theorem foreignName?_formed {instance_ : Json} (formed : IsInstance instance_) :
    foreignName? instance_ =
      .ok (if IsOwned instance_ then none else some (.str (listedAs instance_))) := by
  obtain ⟨found, hasTags, each⟩ := formed.find_items
  have named : instanceName instance_ = .ok (.str (nameOf instance_)) := by
    simp only [instanceName, hasTags, each, bind, Except.bind]
    exact nameTag_formed formed.items
  have own : (ownNames.any fun own => (Json.str (nameOf instance_)).same (.str own)) = true ↔
      IsOwned instance_ := by
    simp only [isOwned_iff, List.any_eq_true, Json.same_str, Json.str.injEq, exists_eq_right']
  simp only [foreignName?, named, bind, Except.bind]
  by_cases owned : IsOwned instance_
  · rw [if_pos (own.mpr owned), if_pos owned]
    rfl
  · rw [if_neg (own.not.mpr owned), if_neg owned]
    unfold listedAs
    by_cases empty : nameOf instance_ = "" <;> simp [Json.counts, empty, pure, Except.pure]

theorem foreignNames_cons (instance_ : Json) (rest : List Json) :
    foreignNames (instance_ :: rest) =
      if IsOwned instance_ then foreignNames rest else listedAs instance_ :: foreignNames rest := by
  by_cases owned : IsOwned instance_ <;> simp [foreignNames, owned]

theorem foreignInReservation_formed {reservation : Json} (formed : IsReservation reservation) :
    foreignInReservation reservation =
      .ok ((foreignNames (reservation.itemsUnder "Instances")).map .str) := by
  obtain ⟨found, hasInstances, each⟩ := formed.find_items
  have mapped := Except.mapM_of_forall fun i member => foreignName?_formed (formed.items i member)
  simp only [foreignInReservation, hasInstances, each, mapped, bind, Except.bind, pure, Except.pure]
  generalize reservation.itemsUnder "Instances" = instances
  refine congrArg Except.ok ?_
  induction instances with
  | nil => rfl
  | cons i rest ih =>
      rw [List.map_cons, foreignNames_cons, List.filterMap_cons, ih]
      by_cases owned : IsOwned i <;> simp only [owned, if_true, if_false, id, List.map_cons]

theorem foreignOnPage_formed {page : Json} (formed : IsPage page) :
    foreignOnPage page = .ok ((foreignNames (instancesOn page)).map .str) := by
  obtain ⟨found, hasReservations, each⟩ := formed.find_items
  have mapped := Except.mapM_of_forall fun r member =>
    foreignInReservation_formed (formed.items r member)
  simp only [foreignOnPage, hasReservations, each, mapped, bind, Except.bind, pure, Except.pure]
  rw [instancesOn, foreignNames_flatMap, List.map_flatMap, List.flatMap_def]

def instancesIn (pages : List Json) : List Json := pages.flatMap instancesOn

theorem foreignInListing_formed {reply : CloudReply} (formed : ∀ page ∈ reply.pages, IsPage page) :
    foreignInListing reply = match reply.fault with
      | some f => .error f
      | none => .ok ((foreignNames (instancesIn reply.pages)).map .str) := by
  have mapped := Except.mapM_of_forall fun page member => foreignOnPage_formed (formed page member)
  have told : (reply.pages.map fun page => (foreignNames (instancesOn page)).map Json.str).flatten
      = (foreignNames (instancesIn reply.pages)).map .str := by
    rw [instancesIn, foreignNames_flatMap, List.map_flatMap, List.flatMap_def]
  unfold foreignInListing
  rw [mapped]
  cases reply.fault with
  | some f => rfl
  | none => exact congrArg Except.ok told

/-- A refusal that tells the names of foreign instances in order, each as often as it is there. -/
def Blocked (id : Json) (foreign : List String) (r : Except Fault Unit) : Prop :=
  ∃ names suggestions, names.Perm foreign ∧ names.Pairwise (· ≤ ·) ∧
    r = .error (.reported .unsafeDeletion ("vpc " ++ id.display ++
      " is not safe to delete; vms still exist: [" ++ ", ".intercalate names ++ "]")
      {} none suggestions)

/-- What the check of a network comes to when its instances have been listed: it passes just when
the stack owns all of them, and is blocked by the others. A listing that was refused is reported,
and one that did not come to its end never passes. -/
structure Inspected (id : Json) (reply : CloudReply) (r : Except Fault Unit) : Prop where
  passes : reply.fault = none → (∀ page ∈ reply.pages, IsPage page) →
    (r = .ok () ↔ ∀ i ∈ instancesIn reply.pages, IsOwned i)
  blocks : reply.fault = none → (∀ page ∈ reply.pages, IsPage page) →
    (∃ i ∈ instancesIn reply.pages, ¬IsOwned i) →
      Blocked id (foreignNames (instancesIn reply.pages)) r
  refused (f : ServiceFault) : reply.fault = some (.service f) →
    (∀ page ∈ reply.pages, IsPage page) → ∃ report, report.isReport = true ∧
      report = (Fault.service f).classify (about "vpc" id.display "ec2" "describe_instances") ∧
        r = .error report
  unfinished : reply.fault ≠ none → r ≠ .ok ()

namespace Desk.Judged
variable {id : Json} {reply : CloudReply} {r : Except Fault Unit}

theorem of_ended (judged : Judged id reply r) (ended : reply.fault = none)
    (formed : ∀ page ∈ reply.pages, IsPage page) :
    (foreignNames (instancesIn reply.pages) = [] ∧ r = .ok ()) ∨
      (foreignNames (instancesIn reply.pages) ≠ [] ∧
        Blocked id (foreignNames (instancesIn reply.pages)) r) := by
  have found := foreignInListing_formed formed
  rw [ended] at found
  cases judged with
  | refused stopped | stopped stopped => cases found.symm.trans stopped
  | unoccupied none =>
      exact .inl ⟨List.map_eq_nil_iff.mp (Except.ok.inj (found.symm.trans none)), rfl⟩
  | occupied there some_ =>
      obtain rfl := Except.ok.inj (found.symm.trans there)
      obtain ⟨names, sorted, perm, ordered⟩ :=
        Json.sortedNames_texts (foreignNames (instancesIn reply.pages))
      rw [sorted]
      exact .inr ⟨fun none => some_ (by rw [none]; rfl), names, _, perm, ordered, rfl⟩

theorem of_refused {f : ServiceFault} (judged : Judged id reply r)
    (failed : reply.fault = some (.service f)) (formed : ∀ page ∈ reply.pages, IsPage page) :
    r = .error ((Fault.service f).classify (about "vpc" id.display "ec2" "describe_instances")) := by
  have found := foreignInListing_formed formed
  rw [failed] at found
  cases judged with
  | refused refused =>
      cases found.symm.trans refused
      rfl
  | stopped stopped other => exact absurd (Except.error.inj (found.symm.trans stopped)).symm (other f)
  | unoccupied there | occupied there => cases found.symm.trans there

theorem inspected (judged : Judged id reply r) : Inspected id reply r where
  passes ended formed := by
    rw [← foreignNames_eq_nil]
    rcases judged.of_ended ended formed with ⟨none, rfl⟩ | ⟨some_, names, _, -, -, rfl⟩
    · exact iff_of_true rfl none
    · exact iff_of_false nofun some_
  blocks ended formed foreign := by
    rcases judged.of_ended ended formed with ⟨none, -⟩ | ⟨-, blocked⟩
    · obtain ⟨i, member, foreign⟩ := foreign
      exact absurd (foreignNames_eq_nil.mp none i member) foreign
    · exact blocked
  refused f failed formed :=
    ⟨_, Fault.isReport_classify _ _, rfl, judged.of_refused failed formed⟩
  unfinished failed passed := failed (judged.vacant passed).fault

end Desk.Judged

/-- The check of a network that is known lists its instances once, and goes by them. -/
theorem checkVpc_inspects {id : Json} (known : id.counts = true) (d : Desk) : ∃ reply,
    d.host.requests (Desk.checkVpc id d).2.host =
      [⟨⟨"ec2.paginate.describe_instances", listArguments id⟩, reply⟩] ∧
        Inspected id reply (Desk.checkVpc id d).1 := by
  obtain ⟨es, contacts, ⟨-, unknown⟩ | ⟨reply, rfl, judged⟩⟩ := Desk.checkVpc_judged id d
  · cases known.symm.trans unknown
  · exact ⟨reply, contacts.requests, judged.inspected⟩

/-- A page with the stack's own gateway and with an instance that nobody has named. -/
def untaggedPage : Json := .obj [("Reservations", .arr [.obj [("Instances", .arr [
  .obj [("Tags", .arr [.obj [("Key", .str "Name"), ("Value", .str "NAT")]])], .obj []])]])]

def untaggedDesk : Desk where
  host := { cloud := { replies :=
    [("ec2.paginate.describe_instances", [{ pages := [.obj [], untaggedPage] }])] } }
  manager := { keys := {} }

theorem untaggedPage_isPage : IsPage untaggedPage := by
  have gateway : IsTag (.obj [("Key", .str "Name"), ("Value", .str "NAT")]) := by
    constructor <;>
      simp [Json.Admits, Json.IsObject, Json.IsText, Json.under, Fields.get?, List.lookup_cons]
  simp [untaggedPage, IsPage, IsReservation, IsInstance, Json.Admits, Json.IsObject, Json.IsListOf,
    Json.under, Fields.get?, gateway]

theorem checkVpc_inspects_untagged : (Json.str "vpc").counts = true ∧ ∃ suggestions,
    (Desk.checkVpc (.str "vpc") untaggedDesk).1 = .error (.reported .unsafeDeletion
      "vpc vpc is not safe to delete; vms still exist: [unnamed]" {} none suggestions) := by
  have known : (Json.str "vpc").counts = true := by decide
  obtain ⟨reply, requests, inspected⟩ := checkVpc_inspects known untaggedDesk
  have listed : reply = { pages := [.obj [], untaggedPage] } :=
    (Request.mk.inj (List.cons.inj requests).1).2.symm
  subst listed
  have formed : ∀ page ∈ [.obj [], untaggedPage], IsPage page :=
    List.forall_mem_cons.mpr ⟨⟨⟨_, rfl⟩, nofun⟩, List.forall_mem_singleton.mpr untaggedPage_isPage⟩
  obtain ⟨names, suggestions, perm, -, blocked⟩ := inspected.blocks rfl formed (by decide)
  obtain rfl : names = ["unnamed"] := List.perm_singleton.mp perm
  exact ⟨known, suggestions, blocked⟩

end Dismantle.Aws
