import Dismantle.Gcloud.Checks
import Dismantle.Proofs.Terraform.Tool
/-! The processes that the gcloud program is started as, and what a listing of instances says about
the networks that they are attached to. -/
namespace Dismantle.Gcloud

/-- What stands behind the last slash of an address, or all of one without a slash. -/
def IsLastSegment {α : Type} (slash : α) (address segment : List α) : Prop :=
  slash ∉ segment ∧ (address = segment ∨ ∃ front, address = front ++ slash :: segment)

/-- The last segment of the address of an interface's network is `network`. -/
def IsAttached (network : String) (interface : Json) : Prop :=
  match interface.under "network" with
  | some (.str address) => IsLastSegment '/' address.toList network.toList
  | some (.unpaired points) => IsLastSegment 47 points (network.toList.map Char.toNat)
  | _ => False

/-- What the program is told for listing all instances of a project. -/
def listCommand : List String := ["compute", "instances", "list", "--format=json"]

/-- A process has succeeded and printed a value; printing nothing stands for none. -/
def Prints (l : Launch) (v : Json) : Prop := ∃ output errors,
  l.reply.ending = .exited 0 output errors ∧
    Json.read (if output = "" then "null" else output) = .ok v

/-- A listing has succeeded and shows no instance that is attached to a network. -/
structure Unused (network : String) (l : Launch) : Prop where
  command : l.Runs listCommand
  printed : ∃ output errors listing, l.reply.ending = .exited 0 output errors ∧
    Json.read (if output = "" then "null" else output) = .ok listing ∧
    ∀ i ∈ listing.elements, ∀ interface ∈ i.itemsUnder "networkInterfaces",
      ¬IsAttached network interface

theorem lastSegment_eq {α : Type} [DecidableEq α] {slash : α} {address segment : List α}
    (h : IsLastSegment slash address segment) : lastSegment slash address = segment := by
  obtain ⟨clear, whole⟩ := h
  have kept : ∀ c ∈ segment.reverse, decide (c ≠ slash) = true := by
    intro c member
    refine decide_eq_true fun same => clear ?_
    exact same ▸ List.mem_reverse.mp member
  unfold lastSegment
  rcases whole with rfl | ⟨front, rfl⟩
  · rw [← List.append_nil address.reverse, List.takeWhile_append_of_pos kept]
    simp only [List.takeWhile_nil, List.append_nil, List.reverse_reverse]
  · rw [List.reverse_append, List.reverse_cons, List.append_assoc, List.takeWhile_append_of_pos kept]
    have stops : List.takeWhile (fun c => decide (c ≠ slash)) ([slash] ++ front.reverse) = [] := by
      simp
    rw [stops, List.append_nil, List.reverse_reverse]

theorem not_isAttached {network : String} {interface : Json}
    (h : attached network interface = .ok false) : ¬IsAttached network interface := by
  obtain ⟨v, found, h⟩ := Except.bind_eq_ok h
  obtain ⟨-, rfl⟩ := Json.find_eq_ok found
  unfold IsAttached
  generalize interface.under "network" = address at h ⊢
  rcases address with _ | (_ | _ | _ | _ | s | points | _ | _)
  case some.str =>
      intro same
      have equal : (lastSegment '/' s.toList == network.toList) = false := Except.ok.inj h
      rw [lastSegment_eq same, beq_self_eq_true] at equal
      cases equal
  case some.unpaired =>
      intro same
      have equal : (lastSegment 47 points == network.toList.map Char.toNat) = false :=
        Except.ok.inj h
      rw [lastSegment_eq same, beq_self_eq_true] at equal
      cases equal
  all_goals exact id

theorem attached_isObject {network : String} {interface : Json} {b : Bool}
    (h : attached network interface = .ok b) : interface.IsObject := by
  obtain ⟨v, found, h⟩ := Except.bind_eq_ok h
  exact (Json.find_eq_ok found).1

theorem anyAttached_eq_false {network : String} {interfaces : List Json}
    (h : anyAttached network interfaces = .ok false) :
    ∀ interface ∈ interfaces, interface.IsObject ∧ ¬IsAttached network interface := by
  induction interfaces with
  | nil => exact List.forall_mem_nil _
  | cons interface rest ih =>
      obtain ⟨b, first, h⟩ := Except.bind_eq_ok h
      cases b with
      | true => cases h
      | false =>
          have here := And.intro (attached_isObject first) (not_isAttached first)
          exact List.forall_mem_cons.mpr ⟨here, ih h⟩

theorem attachedName?_isObject {network : String} {instance_ : Json} {name : Option Json}
    (h : attachedName? network instance_ = .ok name) : instance_.IsObject := by
  obtain ⟨found, hasInterfaces, -⟩ := Except.bind_eq_ok h
  exact (Json.find_eq_ok hasInterfaces).1

theorem attachedName?_eq_none {network : String} {instance_ : Json}
    (h : attachedName? network instance_ = .ok none) :
    ∀ interface ∈ instance_.itemsUnder "networkInterfaces", ¬IsAttached network interface := by
  obtain ⟨found, hasInterfaces, h⟩ := Except.bind_eq_ok h
  obtain ⟨interfaces, each, h⟩ := Except.bind_eq_ok h
  obtain ⟨b, any, h⟩ := Except.bind_eq_ok h
  cases b with
  | true =>
      obtain ⟨name, -, h⟩ := Except.bind_eq_ok h
      cases h
  | false =>
      have clear := anyAttached_eq_false any
      rw [Json.itemsUnder_eq hasInterfaces, Json.elements_of_each each]
      · exact fun interface member => (clear interface member).2
      · exact fun interface head => (clear interface (List.mem_of_mem_head? head)).1

theorem attachedNames_eq_nil {network : String} {listing : Json}
    (h : attachedNames network listing = .ok []) :
    ∀ i ∈ listing.elements, ∀ interface ∈ i.itemsUnder "networkInterfaces",
      ¬IsAttached network interface := by
  obtain ⟨instances, each, h⟩ := Except.bind_eq_ok h
  obtain ⟨names, mapped, h⟩ := Except.bind_eq_ok h
  rw [Json.elements_of_mapM each mapped fun _ _ => attachedName?_isObject]
  intro i member
  obtain ⟨name, among, same⟩ := Except.mapM_mem mapped member
  have unnamed : names.filterMap id = [] := Except.ok.inj h
  have unattached : name = none := List.filterMap_eq_nil_iff.mp unnamed name among
  rw [unattached] at same
  exact attachedName?_eq_none same

theorem elements_orElse (listing : Json) :
    (Tool.orElse listing (.arr [])).elements = listing.elements := by
  unfold Tool.orElse
  split
  case isTrue => rfl
  case isFalse none =>
      have empty : listing.elements = [] := Json.elements_of_not_counts (by simpa using none)
      exact empty.symm

/-- The program is asked one thing, and what it has printed is the answer. -/
theorem query_engages (t : Tool) (arguments : List String) (h : Host) :
    (t.query arguments).Engages id h fun es r _ => ∃ l, es = [.launch l] ∧
      l.Runs (arguments ++ ["--format=json"]) ∧ ∀ v, r = .ok v ↔ Prints l v := by
  let c := t.command (arguments ++ ["--format=json"]) []
  refine Act.engages_bind (c.run_engages fun reply h' _ => ?_)
  have runs : Launch.Runs ⟨c.start h, reply⟩ (arguments ++ ["--format=json"]) :=
    c.runs (List.prefix_append _ _)
  split
  case h_1 result judged =>
      have ended := Command.judge_eq_ok rfl judged
      refine Act.engages_ofExcept ⟨_, rfl, runs, fun v => ⟨fun read => ?_, ?_⟩⟩
      · exact ⟨_, _, ended, Terraform.Tool.readOutput_eq_ok read⟩
      · rintro ⟨output, errors, ended', read⟩
        cases ended.symm.trans ended'
        exact Terraform.Tool.readOutput_of_read read
  case h_2 f judged =>
      refine ⟨_, rfl, runs, fun v => ⟨nofun, ?_⟩⟩
      rintro ⟨output, errors, ended, -⟩
      change reply.ending = _ at ended
      rw [ended, Command.judge_of_exited] at judged
      cases judged

/-- What is said of a network once all instances are known. -/
def judgeListing (network : String) (instances : Json) : Except Fault Unit := do
  let names ← attachedNames network instances
  if names.isEmpty then return ()
  let names ← Json.sortedNames names
  .error (Fault.occupied "network" network names)

theorem checkNetwork_lists (t : Tool) {network : String} (known : network ≠ "") (h : Host) :
    (checkNetwork t network).Engages id h fun es r _ => ∃ l answer, es = [.launch l] ∧
      l.Runs listCommand ∧ (∀ v, answer = .ok v ↔ Prints l v) ∧
        r = answer >>= fun v => judgeListing network (Tool.orElse v (.arr [])) := by
  unfold checkNetwork
  rw [if_neg known]
  refine Act.engages_bind (Act.engages_bind ((query_engages t _ h).mono ?_))
  rintro es r h' ⟨l, rfl, runs, read⟩
  cases r with
  | error f => exact ⟨l, .error f, rfl, runs, read, rfl⟩
  | ok listing => exact Act.engages_pure (Act.engages_ofExcept ⟨l, .ok listing, rfl, runs, read, rfl⟩)

/-- A network passes if it is not known, or if the listing of all instances shows it unused. -/
theorem checkNetwork_engages (t : Tool) (network : String) (h : Host) :
    (checkNetwork t network).Engages id h fun es r _ =>
      (es = [] ∧ network = "") ∨
      ∃ l, es = [.launch l] ∧ l.Runs listCommand ∧
        (r = .ok () → Unused network l) := by
  by_cases unknown : network = ""
  · unfold checkNetwork
    rw [if_pos unknown]
    refine (Host.note_quiet _ _ _ _).mono ?_
    rintro es r h' ⟨rfl, -⟩
    exact .inl ⟨rfl, unknown⟩
  · refine (checkNetwork_lists t unknown h).mono ?_
    rintro es r h' ⟨l, answer, rfl, runs, read, rfl⟩
    refine .inr ⟨l, rfl, runs, fun unused => ?_⟩
    obtain ⟨listing, told, unused⟩ := Except.bind_eq_ok unused
    obtain ⟨names, named, unused⟩ := Except.bind_eq_ok unused
    split at unused
    case isTrue none =>
        rw [List.isEmpty_iff.mp none] at named
        have clear := attachedNames_eq_nil named
        rw [elements_orElse] at clear
        obtain ⟨output, errors, ended, parsed⟩ := (read listing).mp told
        exact ⟨runs, output, errors, listing, ended, parsed, clear⟩
    case isFalse =>
        obtain ⟨sorted, -, unused⟩ := Except.bind_eq_ok unused
        cases unused

/-- A process that looks at or changes the metadata of a project, where keys are kept. -/
def IsKeyWork (x : Contact) : Prop := ∃ l, x = .launch l ∧ l.Runs ["compute", "project-info"]

theorem metadata_within (t : Tool) : t.metadata.Within id IsKeyWork := by
  refine .bind (fun h => (query_engages t _ h).mono ?_) fun info => Act.within_ofExcept _
  rintro es r h' ⟨l, rfl, runs, -⟩
  refine List.forall_mem_singleton.mpr ⟨l, rfl, ?_⟩
  exact .trans ⟨["describe", "--format=json"], rfl⟩ runs

theorem setMetadata_within (t : Tool) (key value : String) :
    (t.setMetadata key value).Within id IsKeyWork := by
  refine .bind (Act.within_ofExcept _) fun file => ?_
  refine .bind (Command.run_within _ fun h reply => ?_) fun _ => Act.within_pure _
  exact ⟨_, rfl, Command.runs _ ⟨_, rfl⟩⟩

theorem removeMetadata_within (t : Tool) (key : String) :
    (t.removeMetadata key).Within id IsKeyWork := by
  refine .bind (Command.run_within _ fun h reply => ?_) fun _ => Act.within_pure _
  exact ⟨_, rfl, Command.runs _ ⟨_, rfl⟩⟩

theorem deleteKey_within (t : Tool) (publicKey : String) :
    (deleteKey t publicKey).Within id IsKeyWork := by
  have noted (message : String) : (Host.note Log.info logger message).Within id IsKeyWork :=
    (Host.note_quiet _ _ _).within
  unfold deleteKey
  dsimp only
  split
  case isTrue => exact (Host.note_quiet _ _ _).within
  case isFalse =>
      refine .bind (metadata_within t) fun metadata => .bind (Act.within_ofExcept _) fun value => ?_
      split
      case isTrue => exact noted _
      case isFalse =>
          split
          · exact .bind (removeMetadata_within t _) fun _ => noted _
          · exact .bind (setMetadata_within t _ _) fun _ => noted _

end Dismantle.Gcloud
