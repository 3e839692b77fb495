import Dismantle.Bosh.Tool
import Dismantle.Proofs.Environment.Reporting
import Dismantle.Proofs.Host.Ending
import Dismantle.Proofs.Host.Engagement
/-! Deleting a director: the process that is started for it, and what is made of the files that the
process leaves behind when it fails. -/
namespace Dismantle.Bosh

def IsDirectorWork (x : Contact) : Prop := ∃ l, x = .launch l ∧ l.Runs ["delete-env"]

/-- The files that the program is given. -/
def handed (d : Director) : NamedFiles :=
  ((NamedFiles.put [] manifestFile (.text d.manifest)).put stateFile
    (.text (Json.line (.obj d.state)))).put credentialsFile
      (.text (Yaml.document d.credentials.fields))

/-- The director's state that is taken from the file the program has left, or that is known. -/
inductive StateTaken (known : Fields) : Option Content → Fields → Prop
  | missing : StateTaken known none known
  | broken {c : Content} {text : String} {problem : Json.Problem} {line column place : Nat}
      (read : c.read = .ok text)
      (stopped : Json.read text = .error (.broken problem line column place)) :
      StateTaken known (some c) known
  | foreign {c : Content} {text : String} {v : Json} (read : c.read = .ok text)
      (whole : Json.read text = .ok v) (other : ∀ fields, v ≠ .obj fields) :
      StateTaken known (some c) known
  | taken {c : Content} {text : String} {fields : Fields} (read : c.read = .ok text)
      (whole : Json.read text = .ok (.obj fields)) : StateTaken known (some c) fields

/-- What is wrong with the keys of credentials, all of it. -/
def misnamed (entries : List (Yaml.Value × Yaml.Value)) : Invalid where
  title := Director.title
  issues := entries.filterMap fun e => match Tool.nameOf e.1 with
    | .ok _ => none
    | .error p => some ⟨[.name "credentials", e.1.keyName, .name "[key]"], p⟩

def named (entries : List (Yaml.Value × Yaml.Value)) : Yaml.Entries :=
  entries.foldl (fun es e => match Tool.nameOf e.1 with
    | .ok name => Fields.put es name e.2
    | .error _ => es) []

section
variable [Limits]

/-- The credentials that are taken from the file the program has left, or that are known. -/
inductive CredentialsTaken (known : Yaml.Entries) : Option Content → Yaml.Entries → Prop
  | missing : CredentialsTaken known none known
  | malformed {c : Content} {text : String} (read : c.read = .ok text)
      (stopped : Yaml.Value.read Limits.reading text.toList = .error .malformed) :
      CredentialsTaken known (some c) known
  /-- The document stands for nothing. -/
  | none {c : Content} {text : String} {v : Yaml.Value} (read : c.read = .ok text)
      (whole : Yaml.Value.read Limits.reading text.toList = .ok v) (nothing : v.counts = false) :
      CredentialsTaken known (some c) []
  | foreign {c : Content} {text : String} {v : Yaml.Value} (read : c.read = .ok text)
      (whole : Yaml.Value.read Limits.reading text.toList = .ok v) (counts : v.counts = true)
      (other : ∀ entries, v ≠ .map entries) : CredentialsTaken known (some c) known
  | taken {c : Content} {text : String} {entries : List (Yaml.Value × Yaml.Value)}
      (read : c.read = .ok text)
      (whole : Yaml.Value.read Limits.reading text.toList = .ok (.map entries))
      (counts : (Yaml.Value.map entries).counts = true) (names : (misnamed entries).issues = []) :
      CredentialsTaken known (some c) (named entries)

/-- The fault that keeps credentials from being taken or left. -/
inductive Unfit (c : Content) : Fault → Prop
  | undecodable {f : Text.Utf8.Fault} (read : c.read = .error f) : Unfit c (.undecodable f)
  /-- There is a value in the text that cannot be. -/
  | impossible {text : String} {p : Yaml.Impossible} (read : c.read = .ok text)
      (stopped : Yaml.Value.read Limits.reading text.toList = .error (.impossible p)) : Unfit c p.fault
  | tooDeep {text : String} (read : c.read = .ok text)
      (stopped : Yaml.Value.read Limits.reading text.toList = .error .tooDeep) : Unfit c .exhausted
  /-- A key is no name. -/
  | misnamed {text : String} {entries : List (Yaml.Value × Yaml.Value)} (read : c.read = .ok text)
      (whole : Yaml.Value.read Limits.reading text.toList = .ok (.map entries))
      (counts : (Yaml.Value.map entries).counts = true) (wrong : (misnamed entries).issues ≠ []) :
      Unfit c (.invalid (misnamed entries))

/-- The record of an environment after a failed deletion that left these files. -/
def Recovered (e : Environment) (files : NamedFiles) (left : Environment) : Prop :=
  e.director.height ≤ Limits.copying ∧
  ∃ state credentials, StateTaken e.director.state (files.get? stateFile) state ∧
    CredentialsTaken e.director.credentials (files.get? credentialsFile) credentials ∧
    left = { e with director := { e.director with state, credentials } }

/-- The fault that keeps the record from being recovered from these files. The record is copied before
anything is read. -/
inductive Spoilt (e : Environment) (files : NamedFiles) : Fault → Prop
  | record (deep : Limits.copying < e.director.height) : Spoilt e files .exhausted
  | state {c : Content} {f : Fault} (shallow : e.director.height ≤ Limits.copying)
      (found : files.get? stateFile = some c) (illegible : c.Illegible f) : Spoilt e files f
  | credentials {c : Content} {f : Fault} (shallow : e.director.height ≤ Limits.copying)
      (legible : ∀ c f, files.get? stateFile = some c → ¬c.Illegible f)
      (found : files.get? credentialsFile = some c) (unfit : Unfit c f) : Spoilt e files f

variable {e : Environment} {files : NamedFiles} {known : Yaml.Entries} {fields : Fields}
  {credentials : Yaml.Entries} {c : Content} {f : Fault}

omit [Limits] in
theorem StateTaken.legible {known : Fields} (h : StateTaken known (some c) fields) :
    ¬c.Illegible f := by
  intro illegible
  cases h with
  | broken read stopped =>
      obtain ⟨u, same, whole⟩ := illegible.stopped read
      rw [stopped] at same
      cases same
      exact whole _ _ _ _ rfl
  | foreign read whole =>
      obtain ⟨u, stopped, -⟩ := illegible.stopped read
      rw [whole] at stopped
      cases stopped
  | taken read whole =>
      obtain ⟨u, stopped, -⟩ := illegible.stopped read
      rw [whole] at stopped
      cases stopped

theorem CredentialsTaken.fit (h : CredentialsTaken known (some c) credentials) : ¬Unfit c f := by
  intro unfit
  cases unfit with
  | undecodable failed => cases h <;> grind
  | impossible read stopped => cases h <;> grind
  | tooDeep read stopped => cases h <;> grind
  | misnamed read whole counts wrong => cases h <;> grind

theorem Unfit.bare (h : Unfit c f) (left : Environment) (cause : Fault) :
    f ≠ .directorLeft left cause := by
  cases h with
  | undecodable => nofun
  | @impossible text p => cases p <;> nofun
  | tooDeep => nofun
  | misnamed => nofun

/-- Nothing that keeps a record from being recovered speaks of what is left of the director. -/
theorem Spoilt.bare (h : Spoilt e files f) (left : Environment) (cause : Fault) :
    f ≠ .directorLeft left cause := by
  cases h with
  | record => nofun
  | state shallow found illegible => cases illegible <;> nofun
  | credentials shallow legible found unfit => exact unfit.bare left cause

/-- Nothing but the director of a record is different when it is recovered. -/
theorem Recovered.kept {left : Environment} (h : Recovered e files left) :
    { e with director := left.director } = left := by
  obtain ⟨-, state, credentials, -, -, rfl⟩ := h
  rfl

theorem Recovered.sound {left : Environment} (h : Recovered e files left) : ¬Spoilt e files f := by
  obtain ⟨shallow, state, credentials, taken, given, -⟩ := h
  intro spoilt
  cases spoilt with
  | record deep => exact Nat.not_lt_of_le shallow deep
  | state shallow found illegible =>
      rw [found] at taken
      exact taken.legible illegible
  | credentials shallow legible found unfit =>
      rw [found] at given
      exact given.fit unfit

end

namespace Tool
variable {h : Host} {w : Workspace}

theorem readFrom_some {complaint name : String} {c : Content} (at_ : h.workspace = some w)
    (found : w.files.get? name = some c) :
    readFrom complaint name h = (c.read.map some |>.mapError .undecodable, h) := by
  rw [readFrom, at_, Option.bind_some, found]

theorem readFrom_none (complaint : String) {name : String} (at_ : h.workspace = some w)
    (missing : w.files.get? name = none) :
    ∃ h', readFrom complaint name h = (.ok none, h') ∧ h'.workspace = some w := by
  rw [readFrom, at_, Option.bind_some, missing]
  exact ⟨_, rfl, at_⟩

theorem stateLeft_taken (known : Fields) (at_ : h.workspace = some w) :
    (∃ fields h', stateLeft known h = (.ok fields, h') ∧ h'.workspace = some w ∧
      StateTaken known (w.files.get? stateFile) fields) ∨
    ∃ c f h', stateLeft known h = (.error f, h') ∧ w.files.get? stateFile = some c ∧
      c.Illegible f := by
  unfold stateLeft
  rw [Act.bind_apply]
  cases found : w.files.get? stateFile with
  | none =>
      obtain ⟨h', read, kept⟩ := readFrom_none unreadState at_ found
      rw [read]
      exact .inl ⟨known, h', rfl, kept, .missing⟩
  | some c =>
      rw [readFrom_some at_ found]
      cases read : c.read with
      | error f => exact .inr ⟨c, _, h, rfl, rfl, .undecodable read⟩
      | ok text =>
          simp only [Except.map, Except.mapError]
          cases data : Json.read text with
          | ok v =>
              cases v with
              | obj fields => exact .inl ⟨fields, h, rfl, at_, .taken read data⟩
              | _ => exact .inl ⟨known, h, rfl, at_, .foreign read data nofun⟩
          | error f =>
              cases f with
              | broken problem line column place =>
                  exact .inl ⟨known, _, rfl, at_, .broken read data⟩
              | tooManyDigits n => exact .inr ⟨c, _, h, rfl, rfl, .tooManyDigits read data⟩
              | tooDeep list => exact .inr ⟨c, _, h, rfl, rfl, .tooDeep read data⟩

theorem namedCredentials_ok {entries : List (Yaml.Value × Yaml.Value)}
    (names : (misnamed entries).issues = []) : namedCredentials entries = .ok (named entries) := by
  unfold namedCredentials
  dsimp only
  split
  case h_1 => rfl
  case h_2 other => exact absurd names other

theorem namedCredentials_error {entries : List (Yaml.Value × Yaml.Value)}
    (wrong : (misnamed entries).issues ≠ []) :
    namedCredentials entries = .error (.invalid (misnamed entries)) := by
  unfold namedCredentials
  dsimp only
  split
  case h_1 none => exact absurd none wrong
  case h_2 => rfl

variable [Limits]

theorem credentialsLeft_taken (known : Yaml.Entries) (at_ : h.workspace = some w) :
    (∃ credentials h', credentialsLeft known h = (.ok credentials, h') ∧ h'.workspace = some w ∧
      CredentialsTaken known (w.files.get? credentialsFile) credentials) ∨
    ∃ c f h', credentialsLeft known h = (.error f, h') ∧ w.files.get? credentialsFile = some c ∧
      Unfit c f := by
  unfold credentialsLeft
  rw [Act.bind_apply]
  cases found : w.files.get? credentialsFile with
  | none =>
      obtain ⟨h', read, kept⟩ := readFrom_none unreadCredentials at_ found
      rw [read]
      exact .inl ⟨known, h', rfl, kept, .missing⟩
  | some c =>
      rw [readFrom_some at_ found]
      cases read : c.read with
      | error f => exact .inr ⟨c, _, h, rfl, rfl, .undecodable read⟩
      | ok text =>
          simp only [Except.map, Except.mapError]
          cases data : Yaml.Value.read Limits.reading text.toList with
          | error r =>
              cases r with
              | malformed => exact .inl ⟨known, _, rfl, at_, .malformed read data⟩
              | impossible p => exact .inr ⟨c, _, h, rfl, rfl, .impossible read data⟩
              | tooDeep => exact .inr ⟨c, _, h, rfl, rfl, .tooDeep read data⟩
          | ok v =>
              dsimp only
              cases counts : v.counts with
              | false => exact .inl ⟨[], h, rfl, at_, .none read data counts⟩
              | true =>
                  rw [Bool.not_true, if_neg Bool.false_ne_true]
                  cases v with
                  | map entries =>
                      by_cases names : (misnamed entries).issues = []
                      · refine .inl ⟨_, h, ?_, at_, .taken read data counts names⟩
                        dsimp only
                        rw [namedCredentials_ok names]
                        rfl
                      · refine .inr ⟨c, _, h, ?_, rfl, .misnamed read data counts names⟩
                        dsimp only
                        rw [namedCredentials_error names]
                        rfl
                  | _ => exact .inl ⟨known, _, rfl, at_, .foreign read data counts nofun⟩

theorem environmentLeft_recovers (e : Environment) (at_ : h.workspace = some w) :
    (∃ left h', environmentLeft e h = (.ok left, h') ∧ Recovered e w.files left) ∨
    ∃ f h', environmentLeft e h = (.error f, h') ∧ Spoilt e w.files f := by
  unfold environmentLeft
  rw [Act.bind_apply, Environment.copy]
  by_cases shallow : e.director.height ≤ Limits.copying
  case neg =>
    rw [if_neg shallow]
    exact .inr ⟨.exhausted, h, rfl, .record (Nat.lt_of_not_le shallow)⟩
  rw [if_pos shallow, Act.ofExcept]
  dsimp only
  rw [Act.bind_apply]
  rcases stateLeft_taken e.director.state at_ with ⟨state, h', run, kept, taken⟩ |
    ⟨c, f, h', run, found, illegible⟩
  · rw [run]
    dsimp only
    rw [Act.bind_apply]
    rcases credentialsLeft_taken e.director.credentials kept with
      ⟨credentials, h'', run', -, given⟩ | ⟨c, f, h'', run', found, unfit⟩
    · rw [run']
      exact .inl ⟨_, h'', rfl, shallow, state, credentials, taken, given, rfl⟩
    · rw [run']
      refine .inr ⟨f, h'', rfl, .credentials shallow (fun c' f' there illegible => ?_) found unfit⟩
      rw [there] at taken
      exact taken.legible illegible
  · rw [run]
    exact .inr ⟨f, h', rfl, .state shallow found illegible⟩

end Tool

section
variable [Limits]

/-- What the program needs is there, and can be written down. -/
structure Deletable (d : Director) : Prop where
  manifest : d.manifest ≠ ""
  state : Tool.writable Limits.encoding d.state = .ok ()
  credentials : Tool.writable Limits.writing d.credentials.fields = .ok ()

/-- The fault that keeps what a program has left from being told. It arises around the program, or it
lies in what the program has left. -/
inductive Untold (e : Environment) (reply : ProcessReply) : Fault → Prop
  | escaped {f : Fault} (escapes : reply.ending.Escapes f) : Untold e reply f
  | spoilt {f : Fault} (tells : reply.ending.Tells)
      (spoilt : Spoilt e (reply.change (handed e.director)) f) : Untold e reply f

/-- What deleting a director comes to once its program has been started. -/
inductive Deletion (t : Tool) (e : Environment) (reply : ProcessReply) : Except Fault Unit → Prop
  | deleted {result : CommandResult} (judged : t.command.judge reply.ending = .ok result) :
      Deletion t e reply (.ok ())
  | recovered {cause : Fault} {left : Environment} (tells : reply.ending.Tells)
      (judged : t.command.judge reply.ending = .error cause)
      (recovered : Recovered e (reply.change (handed e.director)) left) :
      Deletion t e reply (.error (.directorLeft left cause))
  | untold {f : Fault} (untold : Untold e reply f) : Deletion t e reply (.error f)

theorem Untold.bare {e : Environment} {reply : ProcessReply} {f : Fault} (h : Untold e reply f)
    (left : Environment) (cause : Fault) : f ≠ .directorLeft left cause := by
  cases h with
  | escaped escapes =>
      generalize reply.ending = ending at escapes
      cases escapes <;> nofun
  | spoilt tells spoilt => exact spoilt.bare left cause

namespace Deletion
variable {t : Tool} {e : Environment} {reply : ProcessReply} {r : Except Fault Unit}

/-- A program that failed leaves a record that can be recovered, or a fault that is in the way. -/
theorem of_failed (h : Deletion t e reply r) (failed : reply.ending.Failed) :
    (∃ left cause, reply.ending.Tells ∧ t.command.judge reply.ending = .error cause ∧
      r = .error (.directorLeft left cause) ∧ Recovered e (reply.change (handed e.director)) left) ∨
    ∃ f, r = .error f ∧ Untold e reply f := by
  obtain ⟨cause, judged⟩ := Command.judge_of_failed (c := t.command) rfl failed
  cases h with
  | deleted done =>
      rw [judged] at done
      cases done
  | recovered tells judged recovered => exact .inl ⟨_, _, tells, judged, rfl, recovered⟩
  | untold untold => exact .inr ⟨_, rfl, untold⟩

/-- What is left of the director is told exactly if nothing is in the way. -/
theorem tells_iff (h : Deletion t e reply r) (failed : reply.ending.Failed) :
    (∃ left cause, r = .error (.directorLeft left cause)) ↔ ∀ f, ¬Untold e reply f := by
  rcases h.of_failed failed with ⟨left, cause, tells, -, rfl, recovered⟩ | ⟨f, rfl, untold⟩
  · refine iff_of_true ⟨left, cause, rfl⟩ fun f untold => ?_
    cases untold with
    | escaped escapes => exact escapes.not_tells tells
    | spoilt _ spoilt => exact recovered.sound spoilt
  · refine iff_of_false ?_ fun none => none f untold
    rintro ⟨left, cause, same⟩
    exact untold.bare left cause (Except.error.inj same)

end Deletion
end

namespace Tool
variable {C : Contact → Prop}

theorem readFrom_within (complaint name : String) : (readFrom complaint name).Within id C := by
  intro h
  unfold Act.Engages readFrom
  split
  · exact ⟨[], .quiet rfl rfl rfl, List.forall_mem_nil _⟩
  · exact (Host.note_quiet _ _ _).within.bind (fun _ => Act.within_pure _) h

theorem stateLeft_within (known : Fields) : (stateLeft known).Within id C := by
  refine .bind (readFrom_within _ _) fun text => ?_
  split
  · exact Act.within_pure _
  · split
    · exact Act.within_pure _
    · exact Act.within_pure _
    · exact .bind (Host.note_quiet _ _ _).within fun _ => Act.within_pure _
    · exact Act.within_fail _

variable [Limits]

theorem credentialsLeft_within (known : Yaml.Entries) : (credentialsLeft known).Within id C := by
  refine .bind (readFrom_within _ _) fun text => ?_
  split
  · exact Act.within_pure _
  · split
    · exact .bind (Host.note_quiet _ _ _).within fun _ => Act.within_pure _
    · exact Act.within_fail _
    · exact Act.within_fail _
    · split
      · exact Act.within_pure _
      · split
        · exact Act.within_ofExcept _
        · exact .bind (Host.note_quiet _ _ _).within fun _ => Act.within_pure _

/-- Recovering a record contacts nobody. -/
theorem environmentLeft_engages (e : Environment) {h : Host} {w : Workspace}
    (at_ : h.workspace = some w) : (environmentLeft e).Engages id h fun es r _ => es = [] ∧
      ((∃ left, r = .ok left ∧ Recovered e w.files left) ∨
        ∃ f, r = .error f ∧ Spoilt e w.files f) := by
  have within : (environmentLeft e).Within id fun _ => False :=
    .bind (Act.within_ofExcept _) fun _ => .bind (stateLeft_within _) fun _ =>
      .bind (credentialsLeft_within _) fun _ => Act.within_pure _
  refine (within.engages h).mono ?_
  intro es r h' ⟨nobody, ran⟩
  refine ⟨List.eq_nil_iff_forall_not_mem.mpr nobody, ?_⟩
  rcases environmentLeft_recovers e at_ with ⟨left, h'', run, recovered⟩ | ⟨f, h'', run, spoilt⟩
  · rw [run] at ran
    cases ran
    exact .inl ⟨left, rfl, recovered⟩
  · rw [run] at ran
    cases ran
    exact .inr ⟨f, rfl, spoilt⟩

/-- If it can be, the program is started once, with the files in front of it. Then its reply settles
what deleting comes to. -/
theorem delete_engages (t : Tool) (e : Environment) (h : Host) :
    (t.delete e).Engages id h fun es r _ =>
      (es = [] ∧ (∃ f, r = .error f) ∧ ¬Deletable e.director) ∨
      ∃ l, es = [.launch l] ∧ l.start.arguments = t.command.arguments ∧
        l.Begins ["delete-env"] (handed e.director) ∧ Deletion t e l.reply r := by
  unfold delete
  dsimp only
  split
  case isTrue none =>
    exact Act.engages_fail (.inl ⟨rfl, ⟨_, rfl⟩, fun deletable => deletable.manifest none⟩)
  case isFalse =>
    -- In the workspace everything is settled; what is noted after it changes nothing.
    refine Act.engages_bind (Act.Engages.mono (Q := fun es r _ =>
      (es = [] ∧ (∃ f, r = .error f) ∧ ¬Deletable e.director) ∨
      ∃ l, es = [.launch l] ∧ l.start.arguments = t.command.arguments ∧
        l.Begins ["delete-env"] (handed e.director) ∧ Deletion t e l.reply r)
      ?_ ?_)
    · refine Host.engages_inWorkspace (Host.engages_putFile rfl fun h₁ at₁ => ?_)
      refine Act.engages_bind (Act.engages_ofExcept ?_)
      split
      case h_2 long =>
        exact .inl ⟨rfl, ⟨_, rfl⟩, fun deletable => nomatch long.symm.trans deletable.state⟩
      refine Host.engages_putFile at₁ fun h₂ at₂ => ?_
      refine Act.engages_bind (Act.engages_ofExcept ?_)
      split
      case h_2 long =>
        exact .inl ⟨rfl, ⟨_, rfl⟩, fun deletable => nomatch long.symm.trans deletable.credentials⟩
      refine Host.engages_putFile at₂ fun h₃ at₃ => ?_
      refine Act.engages_bind (Act.engages_attempt ?_)
      refine t.command.run_begins rfl rfl at₃ ["delete-env"] ⟨_, rfl⟩ fun l h' given begins there => ?_
      have begins : l.Begins ["delete-env"] (handed e.director) := begins
      rw [Launch.leaves, begins.sees] at there
      cases judged : t.command.judge l.reply.ending with
      | ok result => exact Act.engages_pure (.inr ⟨l, rfl, given, begins, .deleted judged⟩)
      | error cause =>
          rcases Command.judge_eq_error judged with ⟨report, tells⟩ | ⟨other, escapes⟩
          · dsimp only
            rw [if_pos report]
            refine Act.engages_bind ((environmentLeft_engages e there).mono ?_)
            rintro es r h'' ⟨rfl, ⟨left, rfl, recovered⟩ | ⟨f, rfl, spoilt⟩⟩
            · exact Act.engages_fail (.inr ⟨l, rfl, given, begins, .recovered tells judged recovered⟩)
            · exact .inr ⟨l, rfl, given, begins, .untold (.spoilt tells spoilt)⟩
          · dsimp only
            rw [if_neg (Bool.eq_false_iff.mp other)]
            exact Act.engages_fail (.inr ⟨l, rfl, given, begins, .untold (.escaped escapes)⟩)
    · rintro es (f | _) h' outcome
      · exact outcome
      · refine Act.engages_quiet rfl rfl rfl ?_
        rw [List.append_nil]
        exact outcome

/-- Where the program was started, its reply settles what deleting came to. -/
theorem delete_settled {t : Tool} {e : Environment} {h : Host} {l : Launch}
    (launched : l ∈ h.launches (t.delete e h).2) : Deletion t e l.reply (t.delete e h).1 := by
  obtain ⟨es, contacts, outcome⟩ := t.delete_engages e h
  have launches : h.launches (t.delete e h).2 = es.filterMap Contact.launch? := contacts.launches
  rw [launches] at launched
  rcases outcome with ⟨rfl, -⟩ | ⟨l', rfl, -, -, deletion⟩
  · cases launched
  · cases List.mem_singleton.mp launched
    exact deletion

/-- Whatever is left of a director, deleting it starts nothing but the program for that. -/
theorem delete_within (t : Tool) (e : Environment) : (t.delete e).Within id IsDirectorWork := by
  intro h
  refine (t.delete_engages e h).mono ?_
  rintro es r h' (⟨rfl, -⟩ | ⟨l, rfl, -, begins, -⟩)
  · exact List.forall_mem_nil _
  · exact List.forall_mem_singleton.mpr ⟨l, rfl, begins.runs⟩

end Tool
end Dismantle.Bosh
