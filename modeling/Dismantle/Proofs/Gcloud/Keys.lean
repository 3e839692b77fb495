import Dismantle.Proofs.Gcloud.Metadata
import Dismantle.Proofs.Text.Lines
/-! Taking a key off the list of keys that a project has: what is written, and that nothing is left
to be done once it is stored. -/
namespace Dismantle.Gcloud

/-- A line holds a key, wherever in it the key stands. -/
def Holds (key line : String) : Prop := key.toList <:+: line.toList

instance (key : String) : DecidablePred (Holds key) := fun _ =>
  decidable_of_iff _ Text.occursIn_iff

/-- The entries that do not hold a key, in order. -/
def remaining (key value : String) : List String := (entries value).filter fun line => ¬Holds key line

theorem withoutKey_entries (key value : String) :
    withoutKey key (entries value) = remaining key value := by
  unfold withoutKey remaining
  refine List.filter_congr fun line _ => ?_
  simp [Holds, ← Text.occursIn_iff]

theorem remaining_eq_nil {key value : String} :
    remaining key value = [] ↔ ∀ line ∈ entries value, Holds key line := by
  simp [remaining]

theorem remaining_length {key value : String} :
    (remaining key value).length = (entries value).length ↔
      ∀ line ∈ entries value, ¬Holds key line := by
  simp [remaining]

theorem entries_isLine {value line : String} (member : line ∈ entries value) :
    line ≠ "" ∧ Text.IsLine line.toList ∧ Text.strip line ≠ "" := by
  obtain ⟨among, solid⟩ := List.mem_filter.mp member
  have solid : Text.strip line ≠ "" := by simpa using solid
  refine ⟨?_, Text.splitLines_isLine value line among, solid⟩
  rintro rfl
  exact solid rfl

theorem entries_join_remaining (key value : String) :
    entries ("\n".intercalate (remaining key value)) = remaining key value := by
  have entry {line : String} (member : line ∈ remaining key value) :=
    entries_isLine (List.mem_of_mem_filter member)
  unfold entries
  rw [Text.splitLines_join fun line member => ⟨(entry member).1, (entry member).2.1⟩]
  refine List.filter_eq_self.mpr fun line member => ?_
  exact decide_eq_true (entry member).2.2

theorem remaining_of_absent {key value : String} (absent : ∀ line ∈ entries value, ¬Holds key line) :
    remaining key value = entries value :=
  List.filter_eq_self.mpr fun line member => decide_eq_true (absent line member)

theorem absent_of_remaining {key value value' : String}
    (stored : entries value' = remaining key value) : ∀ line ∈ entries value', ¬Holds key line := by
  rw [stored]
  intro line member
  simpa using (List.mem_filter.mp member).2

/-- What the program is told for taking the list of keys away. -/
def removeCommand : List String := ["compute", "project-info", "remove-metadata", "--keys=ssh-keys"]

/-- What the program is told for storing the text of a file as the list of keys. -/
def storeCommand : List String :=
  ["compute", "project-info", "add-metadata", "--metadata-from-file=ssh-keys=<gcloud-work>/ssh-keys"]

/-- Processes that take a key off a list of keys: none if no line holds it, one that takes the
whole list away if all of them do, and one that stores what remains of it otherwise. -/
inductive Rewrites (key value : String) : List Launch → Prop where
  | absent : (∀ line ∈ entries value, ¬Holds key line) → Rewrites key value []
  | removed {w : Launch} : (∃ line ∈ entries value, Holds key line) →
      (∀ line ∈ entries value, Holds key line) → w.Runs removeCommand → Rewrites key value [w]
  | shortened {w : Launch} : (∃ line ∈ entries value, Holds key line) →
      (∃ line ∈ entries value, ¬Holds key line) → w.Runs storeCommand →
      w.start.files.get? "ssh-keys" = some (.text ("\n".intercalate (remaining key value))) →
      Rewrites key value [w]

/-- The list of keys once processes have done what they were told. -/
inductive Stores (value : String) : List Launch → String → Prop where
  | nothing : Stores value [] value
  | removed {w : Launch} : w.Runs removeCommand → Stores value [w] ""
  | stored {w : Launch} {s : String} : w.Runs storeCommand →
      w.start.files.get? "ssh-keys" = some (.text s) → Stores value [w] s

theorem not_runs_both {w : Launch} (removes : w.Runs removeCommand) : ¬w.Runs storeCommand := by
  intro stores
  have same := List.prefix_of_prefix_length_le removes stores (by decide)
  revert same
  decide

/-- Whatever was written, the list holds just what remains. -/
theorem Rewrites.stored {key value value' : String} {writes : List Launch}
    (rewrites : Rewrites key value writes) (stores : Stores value writes value') :
    entries value' = remaining key value := by
  cases rewrites with
  | absent absent =>
      cases stores
      exact (remaining_of_absent absent).symm
  | removed some_ all removes =>
      rw [remaining_eq_nil.mpr all]
      cases stores with
      | removed => rfl
      | stored stores => exact absurd stores (not_runs_both removes)
  | shortened some_ other stored file =>
      cases stores with
      | removed removes => exact absurd stored (not_runs_both removes)
      | stored _ file' =>
          cases file.symm.trans file'
          exact entries_join_remaining key value

/-- Where some line holds the key one process is enough, and what remains is all that it leaves. -/
theorem Rewrites.single {key value : String} {writes : List Launch}
    (rewrites : Rewrites key value writes) (some_ : ∃ line ∈ entries value, Holds key line) :
    ∃ w, writes = [w] ∧ Stores value [w] ("\n".intercalate (remaining key value)) := by
  cases rewrites with
  | absent absent =>
      obtain ⟨line, member, holds⟩ := some_
      exact absurd holds (absent line member)
  | @removed w _ all removes =>
      rw [remaining_eq_nil.mpr all]
      exact ⟨w, rfl, .removed removes⟩
  | @shortened w _ _ stores file => exact ⟨w, rfl, .stored stores file⟩

/-- What is done about a list of keys that has been read. -/
def rewriteKeys (t : Tool) (key value : String) : Act Host Unit :=
  let lines := entries value
  let kept := withoutKey key lines
  if kept.length = lines.length then
    Host.note Log.info logger "Public key not present in project metadata"
  else do
    if kept.isEmpty then t.removeMetadata sshKeys
    else t.setMetadata sshKeys ("\n".intercalate kept)
    Host.note Log.info logger
      ("Removed " ++ toString (lines.length - kept.length) ++ " ssh key(s) from project metadata")

/-- The list of keys among metadata has to be a text. -/
def keysIn (m : Tool.Metadata) : Except Fault String :=
  match (m.get? sshKeys).getD (.str "") with
  | .str s => .ok s
  | .unpaired points => .error (.unencodable (Spelling.firstHalves points))
  | v => .error (.noAttribute v.kindName "splitlines")

theorem deleteKey_of_known (t : Tool) {publicKey : String} (known : Text.strip publicKey ≠ "") :
    deleteKey t publicKey = (do
      let metadata ← t.metadata
      let value ← Act.ofExcept (keysIn metadata)
      rewriteKeys t (Text.strip publicKey) value) := by
  unfold deleteKey
  rw [if_neg known]
  rfl

theorem removeMetadata_engages (t : Tool) (h : Host) :
    (t.removeMetadata sshKeys).Engages id h fun es _ _ => ∃ w, es = [.launch w] ∧
      w.Runs removeCommand := by
  refine Act.engages_bind (Command.run_engages _ fun reply h' _ => ?_)
  split
  · exact Act.engages_pure ⟨_, rfl, Command.runs _ ⟨_, rfl⟩⟩
  · exact ⟨_, rfl, Command.runs _ ⟨_, rfl⟩⟩

theorem setMetadata_engages (t : Tool) (value : String) (h : Host) :
    (t.setMetadata sshKeys value).Engages id h fun es _ _ => ∃ w, es = [.launch w] ∧
      w.Runs storeCommand ∧ w.start.files.get? "ssh-keys" = some (.text value) := by
  have place : Path.ofText sshKeys = ⟨false, ["ssh-keys"]⟩ := by decide +kernel
  have named : Tool.fileName sshKeys = .ok "ssh-keys" := by simp only [Tool.fileName, place]
  refine Act.engages_bind (Act.engages_ofExcept ?_)
  rw [named]
  refine Act.engages_bind (Command.run_engages _ fun reply h' _ => ?_)
  split
  · exact Act.engages_pure ⟨_, rfl, Command.runs _ ⟨_, rfl⟩, rfl⟩
  · exact ⟨_, rfl, Command.runs _ ⟨_, rfl⟩, rfl⟩

theorem engages_thenNote {act : Act Host Unit} {h : Host} {P : List Contact → Prop}
    (level : Log.Level) (logger message : String) (engages : act.Engages id h fun es _ _ => P es) :
    (act >>= fun _ => Host.note level logger message).Engages id h fun es _ _ => P es := by
  refine Act.engages_bind (engages.mono fun es r h' made => ?_)
  cases r with
  | error f => exact made
  | ok u =>
      refine (Host.note_quiet level logger message h').mono ?_
      rintro es' r h'' ⟨rfl, -⟩
      rwa [List.append_nil]

theorem rewriteKeys_engages (t : Tool) (key value : String) (h : Host) :
    (rewriteKeys t key value).Engages id h fun es _ _ =>
      ∃ writes : List Launch, es = writes.map .launch ∧ Rewrites key value writes := by
  unfold rewriteKeys
  simp only [withoutKey_entries]
  split
  case isTrue same =>
      refine (Host.note_quiet _ _ _ h).mono ?_
      rintro es r h' ⟨rfl, -⟩
      exact ⟨[], rfl, .absent (remaining_length.mp same)⟩
  case isFalse changed =>
      have some_ : ∃ line ∈ entries value, Holds key line := by
        by_contra none
        push Not at none
        exact changed (remaining_length.mpr none)
      split
      case isTrue empty =>
          have all := remaining_eq_nil.mp (List.isEmpty_iff.mp empty)
          refine engages_thenNote _ _ _ ((removeMetadata_engages t h).mono ?_)
          rintro es r h' ⟨w, rfl, removes⟩
          exact ⟨[w], rfl, .removed some_ all removes⟩
      case isFalse left =>
          have other : ∃ line ∈ entries value, ¬Holds key line := by
            by_contra none
            push Not at none
            exact left (List.isEmpty_iff.mpr (remaining_eq_nil.mpr none))
          refine engages_thenNote _ _ _ ((setMetadata_engages t _ h).mono ?_)
          rintro es r h' ⟨w, rfl, stores, file⟩
          exact ⟨[w], rfl, .shortened some_ other stores file⟩

/-- The deletion of a key reads the metadata once. What it starts then rewrites the list of keys that
was shown, and it starts nothing where none was read. -/
structure Deletes (t : Tool) (publicKey : String) (h : Host) (l : Launch) (writes : List Launch) :
    Prop where
  launched : h.launches (deleteKey t publicKey h).2 = l :: writes
  reads : l.Runs describeCommand
  silent : (∀ info, ¬Prints l info) → writes = []
  unread (f : Fault) : (t.metadata h).1 = .error f →
    writes = [] ∧ (deleteKey t publicKey h).1 = .error f
  rewrites (value : String) : Shows l value → Rewrites (Text.strip publicKey) value writes

theorem deleteKey_deletes (t : Tool) {publicKey : String} (known : Text.strip publicKey ≠ "")
    (h : Host) : ∃ l writes, Deletes t publicKey h l writes := by
  have engages : (deleteKey t publicKey).Engages id h fun es r _ => ∃ l writes,
      es = .launch l :: writes.map .launch ∧ l.Runs describeCommand ∧
      ((∀ info, ¬Prints l info) → writes = []) ∧
      (∀ f, (t.metadata h).1 = .error f → writes = [] ∧ r = .error f) ∧
      ∀ value, Shows l value → Rewrites (Text.strip publicKey) value writes := by
    rw [deleteKey_of_known t known]
    refine Act.engages_bind ((metadata_engages t h).result.mono ?_)
    rintro es r h' ⟨⟨l, rfl, runs, silent, shown⟩, told⟩
    rw [told]
    cases r with
    | error f =>
        refine ⟨l, [], rfl, runs, fun _ => rfl, ?_, fun value shows_ => ?_⟩
        · rintro f' ⟨⟩
          exact ⟨rfl, rfl⟩
        · obtain ⟨m, read, -⟩ := shown value shows_
          cases read
    | ok m =>
        refine Act.engages_bind (Act.engages_ofExcept ?_)
        cases held : keysIn m with
        | error f =>
            refine ⟨l, [], rfl, runs, fun _ => rfl, nofun, fun value shows_ => ?_⟩
            obtain ⟨m', same, there⟩ := shown value shows_
            cases same
            rw [keysIn, there] at held
            cases held
        | ok value =>
            refine (rewriteKeys_engages t (Text.strip publicKey) value h').mono ?_
            rintro es r h'' ⟨writes, rfl, rewrites⟩
            refine ⟨l, writes, rfl, runs, fun quiet => ?_, nofun, fun value' shows_ => ?_⟩
            · exact absurd rfl (silent quiet m)
            · obtain ⟨m', same, there⟩ := shown value' shows_
              cases same
              rw [keysIn, there] at held
              cases held
              exact rewrites
  obtain ⟨es, contacts, l, writes, rfl, runs, silent, unread, rewrites⟩ := engages
  have launched := contacts.launches
  rw [← List.map_cons, Contact.launch?_launches] at launched
  exact ⟨l, writes, launched, runs, silent, unread, rewrites⟩

end Dismantle.Gcloud
