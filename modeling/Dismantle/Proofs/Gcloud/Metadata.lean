import Dismantle.Proofs.Gcloud.Network
import Dismantle.Proofs.Json.RoundTrip
/-! The metadata of a project, and the list of keys that is kept among them. -/
namespace Dismantle.Gcloud

def metadataItems (info : Json) : List Json :=
  ((info.under "commonInstanceMetadata").getD .null).itemsUnder "items"

/-- What the last item with a key says; an item without a value says nothing. -/
def lastValue (key : String) (items : List Json) : Option String :=
  ((items.filter fun item => item.textUnder "key" = some key).getLast?).map fun item =>
    (item.textUnder "value").getD ""

def keyList (info : Json) : String := (lastValue sshKeys (metadataItems info)).getD ""

/-- An item that has a text for its key, and no value but a text if it is the list of keys. -/
structure IsItem (item : Json) : Prop where
  key : ∃ k, item.under "key" = some (.str k)
  value : item.textUnder "key" = some sshKeys → item.Admits "value" Json.IsText

def IsMetadata (metadata : Json) : Prop := metadata.Admits "items" (Json.IsListOf IsItem)

/-- What is known of a project, any part of which may be missing, or nothing at all. -/
def IsProject (info : Json) : Prop :=
  info.counts = false ∨ info.Admits "commonInstanceMetadata" IsMetadata

theorem lastValue_append (key : String) (items : List Json) (item : Json) :
    lastValue key (items ++ [item]) =
      if item.textUnder "key" = some key then some ((item.textUnder "value").getD "")
      else lastValue key items := by
  unfold lastValue
  rw [List.filter_append]
  by_cases keyed : item.textUnder "key" = some key <;> simp [keyed]

/-- Nothing at all says as much as an object without fields. -/
theorem IsProject.settled {info : Json} (formed : IsProject info) :
    (Tool.orElse info (.obj [])).Admits "commonInstanceMetadata" IsMetadata ∧
      metadataItems (Tool.orElse info (.obj [])) = metadataItems info := by
  rcases formed with none | formed
  · rw [Tool.orElse, if_neg (by simp [none])]
    refine ⟨⟨⟨[], rfl⟩, nofun⟩, ?_⟩
    rw [metadataItems, metadataItems, Json.under_of_not_counts none]
    rfl
  · have same : Tool.orElse info (.obj []) = info := by
      obtain ⟨⟨fs, rfl⟩, -⟩ := formed
      unfold Tool.orElse
      cases fs <;> rfl
    rw [same]
    exact ⟨formed, rfl⟩

namespace Tool.Metadata

theorem get?_cons (k w : Json) (rest : Metadata) (key : String) :
    get? ((k, w) :: rest) key = if k.same (.str key) then some w else rest.get? key := by
  unfold get?
  rw [List.find?_cons]
  by_cases same : k.same (.str key) = true
  · simp [same]
  · simp [same]

theorem get?_put (m : Metadata) (key other : String) (v : Json) :
    (m.put (.str key) v).get? other = if other = key then some v else m.get? other := by
  have same_key : (Json.str key).same (.str other) = true ↔ other = key := by
    rw [Json.same_str, Json.str.injEq, eq_comm]
  induction m with
  | nil =>
      rw [put, get?_cons]
      simp only [same_key]
  | cons entry rest ih =>
      obtain ⟨k, w⟩ := entry
      rw [put]
      by_cases here : k.same (.str key) = true
      · obtain rfl := Json.same_str.mp here
        rw [if_pos here, get?_cons, get?_cons]
        simp only [same_key]
        split <;> rfl
      · rw [if_neg here, get?_cons, get?_cons, ih]
        by_cases same : other = key
        · subst same
          simp [here]
        · simp only [if_neg same]

theorem add_formed (m : Metadata) {item : Json} (formed : IsItem item) : ∃ k v,
    m.add item = .ok (m.put (.str k) v) ∧ item.textUnder "key" = some k ∧
      (k = sshKeys → v = .str ((item.textUnder "value").getD "")) := by
  obtain ⟨k, keyed⟩ := formed.key
  have object : item.IsObject := (Json.isObject_of_under keyed)
  have named := Json.textUnder_eq_some.mpr keyed
  refine ⟨k, (item.under "value").getD (.str ""), ?_, named, ?_⟩
  · simp only [add, Json.demand_of_under keyed, object.find, bind, Except.bind]
  · rintro rfl
    have found := (formed.value named).find_text ""
    rw [object.find] at found
    exact Except.ok.inj found

theorem read_items {items : List Json} (formed : ∀ item ∈ items, IsItem item) : ∃ m,
    items.foldlM add [] = .ok m ∧ m.get? sshKeys = (lastValue sshKeys items).map .str := by
  induction items using List.reverseRecOn with
  | nil => exact ⟨[], rfl, rfl⟩
  | append_singleton items item ih =>
      obtain ⟨earlier, last⟩ := List.forall_mem_append.mp formed
      obtain ⟨m, read, there⟩ := ih earlier
      obtain ⟨k, v, added, keyed, told⟩ := add_formed m (List.forall_mem_singleton.mp last)
      refine ⟨m.put (.str k) v, ?_, ?_⟩
      · rw [List.foldlM_append, read]
        simp [added, bind, Except.bind, pure, Except.pure]
      · rw [get?_put, lastValue_append, keyed, there]
        by_cases same : k = sshKeys
        · simp [same, told]
        · simp [same, Ne.symm same]

theorem isMetadata_empty : IsMetadata (.obj []) := ⟨⟨[], rfl⟩, nofun⟩

theorem ofInfo_admits {info : Json} (formed : info.Admits "commonInstanceMetadata" IsMetadata) :
    ofInfo info = (metadataItems info).foldlM add [] ∧
      ∀ item ∈ metadataItems info, IsItem item := by
  have common : IsMetadata ((info.under "commonInstanceMetadata").getD (.obj [])) := by
    cases under : info.under "commonInstanceMetadata" with
    | none => exact isMetadata_empty
    | some metadata => exact formed.2 metadata under
  have same : ((info.under "commonInstanceMetadata").getD (.obj [])).itemsUnder "items" =
      metadataItems info := by
    unfold metadataItems
    cases info.under "commonInstanceMetadata" <;> rfl
  obtain ⟨items, hasItems, each⟩ := common.find_items
  rw [same] at each
  constructor
  · simp only [ofInfo, formed.1.find, hasItems, each, bind, Except.bind]
  · exact same ▸ common.items

/-- The list of keys is found among what is read. -/
theorem ofInfo_formed {info : Json} (formed : IsProject info) : ∃ m,
    ofInfo (orElse info (.obj [])) = .ok m ∧
      (m.get? sshKeys).getD (.str "") = .str (keyList info) := by
  obtain ⟨admits, same⟩ := formed.settled
  obtain ⟨read, items⟩ := ofInfo_admits admits
  obtain ⟨m, all, there⟩ := read_items items
  refine ⟨m, read.trans all, ?_⟩
  rw [there, same, keyList]
  cases lastValue sshKeys (metadataItems info) <;> rfl

end Tool.Metadata

def describeCommand : List String := ["compute", "project-info", "describe", "--format=json"]

/-- The process shows a project with this list of keys. -/
def Shows (l : Launch) (value : String) : Prop :=
  ∃ info, Prints l info ∧ IsProject info ∧ keyList info = value

theorem metadata_engages (t : Tool) (h : Host) :
    t.metadata.Engages id h fun es r _ => ∃ l, es = [.launch l] ∧ l.Runs describeCommand ∧
      ((∀ info, ¬Prints l info) → ∀ m, r ≠ .ok m) ∧
      ∀ value, Shows l value → ∃ m, r = .ok m ∧ (m.get? sshKeys).getD (.str "") = .str value := by
  refine Act.engages_bind ((query_engages t _ h).mono ?_)
  rintro es r h' ⟨l, rfl, runs, read⟩
  cases r with
  | error f =>
      refine ⟨l, rfl, runs, nofun, ?_⟩
      rintro value ⟨info, printed, -, -⟩
      cases (read info).mpr printed
  | ok info =>
      refine Act.engages_ofExcept ⟨l, rfl, runs, fun silent => ?_, ?_⟩
      · exact absurd ((read info).mp rfl) (silent info)
      · rintro value ⟨info', printed, formed, rfl⟩
        cases (read info').mpr printed
        exact Tool.Metadata.ofInfo_formed formed

def projectWith (value : String) : Json :=
  .obj [("commonInstanceMetadata", .obj [("items", .arr
    [.obj [("key", .str sshKeys), ("value", .str value)]])])]

/-- A host on which the first process shows a list of keys. -/
def showing (value : String) : Host :=
  { replies := [{ ending := .exited 0 (projectWith value).line "" }] }

theorem projectWith_isProject (value : String) : IsProject (projectWith value) := by
  have item : IsItem (.obj [("key", .str sshKeys), ("value", .str value)]) := by
    refine ⟨⟨sshKeys, rfl⟩, fun _ => ?_⟩
    simp [Json.Admits, Json.IsObject, Json.IsText, Json.under, Fields.get?, List.lookup_cons]
  right
  simp [projectWith, IsMetadata, Json.Admits, Json.IsObject, Json.IsListOf, Json.under,
    Fields.get?, item]

theorem keyList_projectWith (value : String) : keyList (projectWith value) = value := rfl

theorem shows_showing {value : String} {h : Host} {l : Launch} {ls : List Launch}
    (arguments : ∀ s ∈ h.starts, s.arguments.all isArgument = true)
    (launched : (showing value).launches h = l :: ls) : Shows l value := by
  have storable : (projectWith value).storable Json.maxDepth = true := rfl
  have printed : (projectWith value).line ≠ "" := by
    obtain ⟨c, cs, head, -⟩ := Json.write_head .oneLine 0 storable
    rw [Json.line, head]
    exact fun empty => List.cons_ne_nil c cs (String.ofList_eq_empty_iff.mp empty)
  refine ⟨projectWith value, ⟨(projectWith value).line, "", ?_, ?_⟩, projectWith_isProject value,
    keyList_projectWith value⟩
  · obtain ⟨started, replied⟩ := Host.reply_of_launches launched
    rw [replied (arguments _ started)]
    rfl
  · rw [if_neg printed]
    exact Json.read_line storable

end Dismantle.Gcloud
