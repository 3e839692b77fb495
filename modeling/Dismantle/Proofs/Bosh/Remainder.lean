import Dismantle.Proofs.Bosh.Recovery
import Dismantle.Proofs.Yaml.Document
import Dismantle.Teardown.Site
/-! The record that a failed deletion tells: everything is as it was recorded, but for the state and
the credentials of the director. -/
namespace Dismantle

/-- Values that the document of them gives back, each under its name. -/
def Yaml.Entries.ReadsBack [Limits] (entries : Entries) : Prop :=
  ∃ read : Entries, Value.read Limits.reading (document entries.fields).toList = .ok (.map read.pairs) ∧
    (Json.obj read.fields).same (.obj entries.fields) = true

namespace Bosh

/-- Work that leaves the files alone, whatever it comes to. -/
def SparesFiles {α : Type} (act : Act Host α) : Prop := ∀ h, (act h).2.files = h.files

theorem SparesFiles.bind {α β : Type} {act : Act Host α} {next : α → Act Host β}
    (first : SparesFiles act) (others : ∀ a, SparesFiles (next a)) : SparesFiles (act >>= next) := by
  intro h
  have same := first h
  rw [Act.bind_apply]
  cases ran : act h with
  | mk r h' =>
      rw [ran] at same
      cases r with
      | error f => exact same
      | ok a => exact (others a h').trans same

namespace Tool
variable [Limits]

omit [Limits] in
theorem readFrom_spares (complaint name : String) : SparesFiles (readFrom complaint name) := by
  intro h
  unfold readFrom
  split <;> rfl

theorem environmentLeft_spares (e : Environment) : SparesFiles (environmentLeft e) := by
  refine .bind (fun _ => rfl) fun _ => .bind (.bind (readFrom_spares _ _) fun text => ?_) fun state =>
    .bind (.bind (readFrom_spares _ _) fun text => ?_) fun credentials => fun _ => rfl
  · split
    · exact fun _ => rfl
    · split <;> exact fun _ => rfl
  · split
    · exact fun _ => rfl
    · split
      · exact fun _ => rfl
      · exact fun _ => rfl
      · exact fun _ => rfl
      · split
        · exact fun _ => rfl
        · split <;> exact fun _ => rfl

omit [Limits] in
theorem run_spares (c : Command) : SparesFiles c.run := by
  refine .bind (fun _ => rfl) fun _ => .bind (fun h => ?_) fun _ _ => rfl
  simp only [Command.launch, Host.takeReply]
  cases h.replies <;> cases c.inWorkspace <;> rfl

/-- Deleting a director touches no file but those in its workspace. -/
theorem delete_files (t : Tool) (e : Environment) (h : Host) : (t.delete e h).2.files = h.files := by
  have put (name : String) (c : Content) : SparesFiles (Host.putFile name c) := fun _ => rfl
  have attempt : SparesFiles (Act.attempt t.command.run) := fun h => run_spares t.command h
  have inside {act : Act Host Unit} (spares : SparesFiles act) :
      SparesFiles (Host.inWorkspace workspaceName act) := fun h => spares _
  have spares : SparesFiles (t.delete e) := by
    unfold delete
    dsimp only
    split
    · exact fun _ => rfl
    · refine .bind (inside (.bind (put _ _) fun _ => ?_)) fun _ _ => rfl
      refine .bind (fun _ => rfl) fun _ => .bind (put _ _) fun _ => ?_
      refine .bind (fun _ => rfl) fun _ => .bind (put _ _) fun _ => ?_
      refine .bind attempt fun ended => ?_
      split
      · exact fun _ => rfl
      · split
        · exact .bind (environmentLeft_spares e) fun _ _ => rfl
        · exact fun _ => rfl
  exact spares h

end Tool

theorem handed_credentials (d : Director) : (handed d).get? credentialsFile
    = some (.text (Yaml.document d.credentials.fields)) := by
  rw [handed, NamedFiles.get?_put, if_pos rfl]

theorem StateTaken.of_line {known state fields : Fields}
    (storable : (Json.obj state).storable Json.maxDepth = true)
    (taken : StateTaken known (some (.text (Json.line (.obj state)))) fields) : fields = state := by
  have same := read_line storable
  have back := Json.read_line storable
  cases taken with
  | broken read stopped =>
      cases read.symm.trans same
      cases stopped.symm.trans back
  | foreign read whole other =>
      cases read.symm.trans same
      cases whole.symm.trans back
      exact absurd rfl (other state)
  | taken read whole =>
      cases read.symm.trans same
      cases whole.symm.trans back
      rfl

section
variable [Limits]

/-- The credentials that the program has left are a map with texts for keys. -/
def NamesLeft (files : NamedFiles) : Prop :=
  ∃ c s entries, files.get? credentialsFile = some c ∧ c.Holds s ∧
    Yaml.Value.read Limits.reading s.toList = .ok (.map entries) ∧ ∀ entry ∈ entries, entry.1.IsText

theorem NamesLeft.of_written {d : Director} {files : NamedFiles}
    (inverse : d.credentials.ReadsBack)
    (written : files.get? credentialsFile = (handed d).get? credentialsFile) : NamesLeft files := by
  obtain ⟨entries, whole, -⟩ := inverse
  rw [handed_credentials] at written
  have read := Content.read_printed (Yaml.document_printed d.credentials.fields)
  exact ⟨_, _, entries.pairs, written, Content.read_eq_ok.mp read, whole, entries.pairs_isText⟩

theorem NamesLeft.fit {files : NamedFiles} (names : NamesLeft files) :
    ∃ c, files.get? credentialsFile = some c ∧ ∀ f, ¬Unfit c f := by
  obtain ⟨c, s, entries, found, holds, whole, texts⟩ := names
  exact ⟨c, found, fun f => fit_of_value holds whole fun _ same => Yaml.Value.map.inj same ▸ texts⟩

theorem CredentialsTaken.of_document {known given taken : Yaml.Entries} (inverse : given.ReadsBack)
    (takes : CredentialsTaken known (some (.text (Yaml.document given.fields))) taken) :
    (Json.obj taken.fields).same (.obj given.fields) = true := by
  obtain ⟨entries, whole, same⟩ := inverse
  have holds := Content.read_eq_ok.mp (Content.read_printed (Yaml.document_printed given.fields))
  rcases takes.of_value holds whole with ⟨hollow, rfl⟩ | ⟨-, other, -⟩ | ⟨_, map, rfl⟩
  · rwa [Yaml.Entries.eq_nil_of_hollow hollow] at same
  · exact absurd rfl (other entries.pairs)
  · rwa [← Yaml.Value.map.inj map, named_pairs (Yaml.Value.read_distinct whole)]

/-- A record whose director can be deleted, with data that can be copied and comes back from the files
of the workspace. -/
structure Intact (e : Environment) : Prop where
  deletable : Deletable e.director
  shallow : e.director.height ≤ Limits.copying
  state : (Json.obj e.director.state).storable Json.maxDepth = true
  credentials : e.director.credentials.ReadsBack

/-- A record with what a program has left of the director in these files. -/
structure Remainder (e : Environment) (files : NamedFiles) (left : Environment) : Prop where
  others : left = { e with director := { e.director with
    state := left.director.state, credentials := left.director.credentials } }
  state : StateTaken e.director.state (files.get? stateFile) left.director.state
  credentials : CredentialsTaken e.director.credentials (files.get? credentialsFile)
    left.director.credentials
  /-- Files that are as they were written give back what was recorded. -/
  unchanged : files.get? stateFile = (handed e.director).get? stateFile →
    files.get? credentialsFile = (handed e.director).get? credentialsFile → left.same e = true

theorem Recovered.remainder {e left : Environment} {files : NamedFiles} (intact : Intact e)
    (recovered : Recovered e files left) : Remainder e files left := by
  obtain ⟨-, state, credentials, taken, given, rfl⟩ := recovered
  refine ⟨rfl, taken, given, fun written written' => Environment.same_of_data ?_ ?_⟩
  · rw [written', handed_credentials] at given
    exact given.of_document intact.credentials
  · rw [written, handed_state] at taken
    rw [taken.of_line intact.state]
    exact Json.same_self intact.state

/-- Deleting the director of an intact record starts the program with what is recorded. If the program
fails and leaves a state that can be looked at as data and credentials with texts for keys, or those that it
was given, what is left is told. The files outside the workspace, and so any record that is kept there,
stay as they were, whatever happens. -/
theorem failed_deletion_exact (t : Tool) {e : Environment} (intact : Intact e) (h : Host) :
    (∃ l, h.launches (t.delete e h).2 = [l] ∧ l.Begins ["delete-env"] (handed e.director) ∧
      (isArgument t.program = true → l.reply = h.replies.headD {}) ∧
      let files := l.reply.change (handed e.director)
      (l.reply.ending.Tells → (∀ c f, files.get? stateFile = some c → ¬c.Illegible f) →
        files.get? credentialsFile = (handed e.director).get? credentialsFile ∨ NamesLeft files →
        ∃ left cause, (t.delete e h).1 = .error (.directorLeft left cause) ∧ Remainder e files left)) ∧
    (t.delete e h).2.files = h.files := by
  obtain ⟨l, launched, begins, replied, deletion⟩ := t.delete_launches intact.deletable h
  refine ⟨⟨l, launched, begins, replied, fun tells legible names => ?_⟩, t.delete_files e h⟩
  obtain ⟨c, found, fit⟩ := (names.elim (.of_written intact.credentials) id : NamesLeft _).fit
  obtain ⟨left, cause, told, recovered⟩ := deletion.recovers tells intact.shallow legible found fit
  exact ⟨left, cause, told, recovered.remainder intact⟩

end

theorem writable_of_storable {fields : Fields} {room levels : Nat}
    (storable : (Json.obj fields).storable room = true)
    (shallow : (Yaml.Value.ofJson (.obj fields)).height ≤ levels) :
    Tool.writable levels fields = .ok () := by
  rw [Tool.writable, Json.cutShort_of_storable storable]
  exact if_pos shallow

theorem remembered_intact : Intact remembered where
  deletable := remembered_deletable
  shallow := remembered_shallow
  state := rfl
  credentials := ⟨[("password", .str "pass")], by
    change Yaml.Value.read _ _ = .ok (.ofTexts [("password", "pass")])
    decide +kernel, by decide⟩

/-- A program that cannot be started leaves the record as it was. -/
theorem failed_deletion_exact_unchanged :
    let h : Host := { replies := [{ ending := .notStarted 2 }] }
    ∃ left cause, (({} : Tool).delete remembered h).1 = .error (.directorLeft left cause) ∧
      left.same remembered = true := by
  intro h
  obtain ⟨⟨l, -, -, replied, tells⟩, -⟩ := failed_deletion_exact {} remembered_intact h
  have reply := replied (by decide)
  rw [reply] at tells
  have legible (c : Content) (f : Fault)
      (found : (handed remembered.director).get? stateFile = some c) : ¬c.Illegible f := by
    rw [handed_state] at found
    cases found
    exact legible_of_line remembered_intact.state
  obtain ⟨left, cause, told, remainder⟩ := tells trivial legible (.inl rfl)
  exact ⟨left, cause, told, remainder.unchanged rfl rfl⟩

theorem no_credentials_readBack : Yaml.Entries.ReadsBack [] := by
  refine ⟨[], ?_, rfl⟩
  change Yaml.Value.read _ _ = .ok (.ofTexts [])
  decide +kernel

def stateful (state : Fields) : Environment := { director := { manifest := "name: lake", state } }

theorem stateful_deletable {state : Fields} {room : Nat} (storable : (Json.obj state).storable room = true)
    (shallow : (Yaml.Value.ofJson (.obj state)).height ≤ Limits.encoding) :
    Deletable (stateful state).director :=
  ⟨by simp [stateful], writable_of_storable storable shallow, rfl⟩

/-- The program fails and touches nothing. -/
def failing : Host := { replies := [{ ending := .exited 1 "" "" }] }

/-- A record whose state lies too deep for a copy is not told at all. -/
theorem nested_deletion {n : Nat} (deep : Limits.copying ≤ n) (written : n + 2 ≤ Limits.encoding) :
    (({} : Tool).delete (stateful [("vm", .nested n)]) failing).1 = .error .exhausted := by
  have storable : (Json.nested (n + 1)).storable (n + 2) = true :=
    Json.storable_nested (Nat.lt_succ_self (n + 1))
  have shallow : (Yaml.Value.ofJson (.nested (n + 1))).height ≤ Limits.encoding := by
    rwa [Yaml.Value.height_nested]
  have height : (stateful [("vm", .nested n)]).director.height = n + 1 :=
    (Nat.max_zero _).trans (Yaml.Value.height_nested n)
  obtain ⟨l, -, -, replied, deletion⟩ :=
    Tool.delete_launches {} (stateful_deletable storable shallow) failing
  rw [replied (by decide)] at deletion
  refine deletion.exhausted (by simp [failing, ProcessEnding.Tells]) ?_
  rw [height]
  exact Nat.lt_succ_of_le deep

/-- A record with the halves of a pair side by side. -/
def paired : Environment := stateful [("vm", .unpaired [0xd83d, 0xde00])]

/-- Some data is too deep to be told, and nothing is told if the program prints what spells no text. Of
a record with the halves of a pair side by side, the character that they spell together is told,
although no file has changed. -/
theorem failed_deletion_not_exact :
    (({} : Tool).delete (stateful [("vm", .nested 600)]) failing).1 = .error .exhausted ∧
    (({} : Tool).delete (stateful []) { replies := [{ ending := .garbled 1 ⟨.badStart, 0, 0, 0xff⟩ }] }).1
      = .error (.undecodable ⟨.badStart, 0, 0, 0xff⟩) ∧
    ∃ left cause, (({} : Tool).delete paired failing).1 = .error (.directorLeft left cause) ∧
      left.director.state = ([("vm", .str "😀")] : Fields) ∧ left.same paired = false := by
  refine ⟨nested_deletion (by decide) (by decide), ?_, ?_⟩
  · rfl
  · have alike : Json.line (.obj [("vm", .unpaired [0xd83d, 0xde00])])
        = Json.line (.obj [("vm", .str "😀")]) := rfl
    have storable : (Json.obj [("vm", .str "😀")]).storable Json.maxDepth = true := by decide
    have deletable : Deletable paired.director := ⟨by decide, rfl, rfl⟩
    obtain ⟨l, -, -, replied, deletion⟩ := Tool.delete_launches {} deletable failing
    rw [replied (by decide)] at deletion
    have written : (handed paired.director).get? stateFile
        = some (.text (Json.line (.obj [("vm", .str "😀")]))) := by
      rw [handed_state, ← alike]
      rfl
    obtain ⟨c, found, fit⟩ :=
      (NamesLeft.of_written (d := paired.director) no_credentials_readBack rfl).fit
    have legible (c : Content) (f : Fault)
        (found : (handed paired.director).get? stateFile = some c) : ¬c.Illegible f := by
      obtain rfl := Option.some.inj (found.symm.trans written)
      exact legible_of_line storable
    obtain ⟨left, cause, told, -, state, credentials, taken, -, rfl⟩ :=
      deletion.recovers (by simp [failing, ProcessEnding.Tells]) (by decide) legible found fit
    have taken : StateTaken _ (some (.text (Json.line (.obj [("vm", .str "😀")])))) state := written ▸ taken
    obtain rfl := taken.of_line storable
    have other : (Json.obj [("vm", .str "😀")]).same (.obj [("vm", .unpaired [0xd83d, 0xde00])]) = false := by
      decide
    exact ⟨_, cause, told, rfl, by simp [Environment.same, Director.same, paired, stateful, other]⟩

end Bosh
end Dismantle
