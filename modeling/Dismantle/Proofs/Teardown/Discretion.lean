import Dismantle.Proofs.Teardown.Alike
import Dismantle.Proofs.Teardown.Rehearsal
/-! Discretion: whatever a record holds in secret, its teardown logs and shows the same, calls the
same, and ends the same. -/
namespace Dismantle.Teardown

section
open Task.Alike

theorem checkpoint_alike (label : String) :
    (Task.checkpoint label).Alike .shown .shown (Task.checkpoint label) := by
  refine env_bind fun e e' same => bind (attempt (tell (congrArg Call.save same))) fun r => ?_
  rcases r with f | _
  · exact bind (log _ _ _) fun _ => fail f
  · have counted : Task.Alike .shown .shown
        (fun p => .done (.ok (), { p with saved := p.saved + 1 }) : Task Unit)
        (fun p => .done (.ok (), { p with saved := p.saved + 1 })) :=
      fun p q h => Task.Ended.ok ⟨h.env, congrArg (· + 1) h.saved, h.tags⟩
    exact bind counted fun _ => bind saved fun n => log _ _ _

theorem checkpointThenFail_alike {α : Type} (label : String) (f : Fault) :
    (Task.checkpointThenFail label f : Task α).Alike .shown .shown
      (Task.checkpointThenFail label f) := by
  refine bind (attempt (checkpoint_alike label)) fun r => ?_
  rcases r with later | _
  · exact fail _
  · exact fail f

theorem deleteDirector_alike : deleteDirector.Alike .checked .shown deleteDirector := by
  refine env_bind fun e e' same => ?_
  rw [same.directorless]
  split
  case isTrue => exact (tell rfl).shown
  case isFalse =>
    rw [same.director]
    refine bind (tell rfl) fun _ => bind (log _ _ _) fun _ => ?_
    refine bind (attempt (tell (congrArg Call.deleteDirector same.shown_eq))) fun r => ?_
    rcases r with f | _
    · cases f with
      | directorLeft left cause =>
          refine bind (log _ _ _) fun _ => ?_
          exact bind (change fun _ _ h => h) fun _ => checkpointThenFail_alike _ _
      | _ => exact fail _
    · exact bind (change fun _ _ h => h) fun _ => checkpoint_alike _

theorem noStack_alike : noStack.Alike .shown .shown noStack := tell rfl

theorem shown_changed {e e' : Environment} (h : e.shown = e'.shown) (f : Stack → Stack) :
    ({ e with stack := f e.stack } : Environment).shown
      = ({ e' with stack := f e'.stack } : Environment).shown := by
  obtain ⟨version, provider, envId, stack⟩ := Environment.shown_eq_iff.mp h
  exact Environment.shown_eq_iff.mpr ⟨version, provider, envId, congrArg f stack⟩

theorem deleteStack_alike : deleteStack.Alike .shown .shown deleteStack := by
  refine env_bind fun e e' same => ?_
  obtain ⟨-, -, -, stack⟩ := Environment.shown_eq_iff.mp same
  rw [stack]
  dsimp only
  split
  case isTrue => exact noStack_alike
  case isFalse =>
    refine bind (attempt (ask _)) fun r => ?_
    split
    case h_1 => exact bind (log _ _ _) fun _ => noStack_alike
    case h_2 => exact fail _
    case h_3 =>
      refine bind (tell rfl) fun _ => bind (tell rfl) fun _ => bind (tell rfl) fun _ => ?_
      refine bind (change fun e e' h => ?_) fun _ => checkpoint_alike _
      exact shown_changed h fun stack => { stack with name := "", lbType := "" }

theorem deleteCertificate_alike : deleteCertificate.Alike .shown .shown deleteCertificate := by
  refine env_bind fun e e' same => ?_
  obtain ⟨-, -, -, stack⟩ := Environment.shown_eq_iff.mp same
  rw [stack]
  split
  case isTrue =>
    refine bind (tell rfl) fun _ => bind (tell rfl) fun _ => ?_
    refine bind (change fun e e' h => ?_) fun _ => checkpoint_alike _
    exact shown_changed h fun stack => { stack with certificateName := "" }
  case isFalse => exact pure ()

theorem tearDownStack_alike : tearDownStack.Alike .shown .shown tearDownStack :=
  bind deleteStack_alike fun _ => deleteCertificate_alike

theorem tearDownAws_alike : tearDownAws.Alike .shown .shown tearDownAws := by
  refine bind tearDownStack_alike fun _ => bind (tell rfl) fun _ => env_bind fun e e' same => ?_
  refine bind (tell rfl) fun _ => bind (change fun _ _ h => h) fun _ => checkpoint_alike _

theorem destroyInfrastructure_alike :
    destroyInfrastructure.Alike .shown .shown destroyInfrastructure := by
  refine env_bind fun e e' same => ?_
  have destroy : Task.Alike (α := String) .shown .shown (Task.ask (.terraformDestroy (destruction e)))
      (Task.ask (.terraformDestroy (destruction e'))) := by
    refine fun p q h => ⟨h.tags, rfl, fun x y answers => ?_⟩
    obtain rfl := eq_of_heq answers
    exact Task.Ended.same h
  refine bind (attempt destroy) fun r => ?_
  rcases r with f | tfState
  · cases f with
    | infrastructureLeft tfState cause =>
        refine bind (log _ _ _) fun _ => ?_
        exact bind (change fun _ _ h => h) fun _ => checkpointThenFail_alike _ _
    | _ => exact fail _
  · exact change fun _ _ h => h

theorem tearDownGcp_alike : tearDownGcp.Alike .shown .shown tearDownGcp := by
  refine env_bind fun e e' same => ?_
  have outputs : Task.Alike (α := Outputs) .shown .shown (Task.ask (.terraformOutputs e))
      (Task.ask (.terraformOutputs e')) := by
    refine fun p q h => ⟨h.tags, congrArg Call.terraformOutputs same, fun x y answers => ?_⟩
    obtain rfl := eq_of_heq answers
    exact Task.Ended.same h
  refine bind outputs fun found => bind (tell rfl) fun _ => bind (tell rfl) fun _ => ?_
  refine bind destroyInfrastructure_alike fun _ => bind (tell rfl) fun _ => bind (tell rfl) fun _ => ?_
  exact bind (change fun _ _ h => h) fun _ => checkpoint_alike _

theorem tearDown_alike (provider : Provider) :
    (tearDown provider).Alike .shown .shown (tearDown provider) := by
  cases provider with
  | unset => exact tearDownStack_alike
  | aws => exact tearDownAws_alike
  | gcp => exact tearDownGcp_alike

theorem dismantle_alike (provider : Provider) (envId : String) :
    (dismantle provider envId).Alike .checked .shown (dismantle provider envId) := by
  refine bind (log _ _ _) fun _ => bind (within _ deleteDirector_alike) fun _ => ?_
  exact bind (within _ (tearDown_alike provider)) fun _ => log _ _ _

variable {e e' : Environment}

theorem skipMissing_alike (flags : Flags) (same : e.Alike e') :
    (skipMissing flags e).Alike .checked .checked (skipMissing flags e') := by
  unfold skipMissing
  rw [same.empty]
  split
  case isTrue => exact bind (tell rfl) fun _ => pure _
  case isFalse => exact pure _

theorem confirm_alike (flags : Flags) (same : e.Alike e') :
    (confirm flags e).Alike .checked .checked (confirm flags e') := by
  unfold confirm
  rw [same.envId]
  split
  case isTrue => exact pure _
  case isFalse =>
    refine bind (ask _) fun answer => ?_
    split
    case isTrue => exact pure _
    case isFalse => exact bind (log _ _ _) fun _ => bind (tell rfl) fun _ => pure _

theorem checkVersion_alike : checkVersion.Alike .checked .checked checkVersion :=
  bind (ask .terraformVersion) fun _ => bind (ofExcept _) fun _ => log _ _ _

theorem validateCredentials_alike (same : e.Alike e') :
    (validateCredentials e).Alike .checked .checked (validateCredentials e') := by
  unfold validateCredentials
  rw [same.provider]
  cases e'.provider with
  | aws => exact tell rfl
  | gcp => exact tell rfl
  | unset => exact log _ _ _

theorem runGuarded_alike (supported : List Provider) (flags : Flags) (same : e.Alike e') :
    (runGuarded supported flags e).Alike .checked .shown (runGuarded supported flags e') := by
  unfold runGuarded
  rw [same.provider, same.envId]
  refine bind (skipMissing_alike flags same) fun skipped => ?_
  split
  case isTrue => exact (pure _).shown
  refine bind (tell (congrArg Call.validateRecord same.shown_eq)) fun _ => ?_
  refine bind (confirm_alike flags same) fun agreed => ?_
  split
  case isTrue => exact (pure _).shown
  refine bind checkVersion_alike fun _ => bind (validateCredentials_alike same) fun _ => ?_
  dsimp only
  split
  case isTrue => exact bind (fail _) fun _ => bind (dismantle_alike _ _) fun _ => pure _
  case isFalse => exact bind (dismantle_alike _ _) fun _ => pure _

theorem run_alike (supported : List Provider) (arguments : List String) :
    (run supported arguments).Alike .checked .shown (run supported arguments) := by
  refine bind saved fun before => bind (ofExcept _) fun flags => env_bind fun e e' same => ?_
  dsimp only
  rw [same.provider, same.envId]
  refine bind (within _ (runGuarded_alike supported flags same)) fun status => ?_
  exact bind saved fun now => pure _

end

/-- The script lets calls fail by what they show. -/
def Script.Blind (script : Script) : Prop :=
  ∀ c d : Call, c.shown = d.shown → script.fault c = script.fault d

theorem Script.blind_of_shown {script : Script} (h : ∀ c : Call, script.fault c = script.fault c.shown) :
    script.Blind := by
  intro c d shown
  rw [h c, h d, shown]

namespace Stage

/-- Rehearsals in memory that have logged the same, and noted calls that show the same. -/
structure Alike (s t : Stage) : Prop where
  memory : s.store = none ∧ t.store = none
  journal : s.host.journal = t.host.journal
  calls : s.calls.map Call.shown = t.calls.map Call.shown
  saves : s.saves = t.saves

namespace Alike
variable {s t u : Stage}

theorem symm (h : s.Alike t) : t.Alike s :=
  ⟨h.memory.symm, h.journal.symm, h.calls.symm, h.saves.symm⟩

theorem trans (h : s.Alike t) (h' : t.Alike u) : s.Alike u :=
  ⟨⟨h.memory.1, h'.memory.2⟩, h.journal.trans h'.journal, h.calls.trans h'.calls,
    h.saves.trans h'.saves⟩

variable (script : Script) (tags : Log.Tags)

theorem save (h : s.Alike t) (e e' : Environment) :
    (save script tags e s).1 = (save script tags e' t).1 ∧
      (save script tags e s).2.Alike (save script tags e' t).2 := by
  obtain ⟨host, store, calls, saves, kept⟩ := s
  obtain ⟨host', store', calls', saves', kept'⟩ := t
  obtain ⟨⟨rfl, rfl⟩, journal, shown, rfl⟩ := h
  unfold Stage.save
  dsimp only
  cases script.saveFault saves with
  | some f => exact ⟨rfl, ⟨rfl, rfl⟩, journal, shown, rfl⟩
  | none => exact ⟨rfl, ⟨rfl, rfl⟩, journal, shown, rfl⟩

theorem validate (h : s.Alike t) (e e' : Environment) :
    (validate tags e s).1 = (validate tags e' t).1 ∧
      (validate tags e s).2.Alike (validate tags e' t).2 := by
  unfold Stage.validate
  rw [h.memory.1, h.memory.2]
  exact ⟨rfl, h⟩

theorem reply_shown (h : s.Alike t) (c : Call) :
    HEq (reply script tags c s).1 (reply script tags c.shown t).1 ∧
      (reply script tags c s).2.Alike (reply script tags c.shown t).2 := by
  cases c with
  | validateRecord e => exact (h.validate tags e e.shown).imp_left heq_of_eq
  | save e => exact (h.save script tags e e.shown).imp_left heq_of_eq
  | _ => exact ⟨HEq.rfl, h⟩

theorem reply (h : s.Alike t) {c d : Call} (shown : c.shown = d.shown) :
    HEq (reply script tags c s).1 (reply script tags d t).1 ∧
      (reply script tags c s).2.Alike (reply script tags d t).2 := by
  obtain ⟨first, after⟩ := h.reply_shown script tags c
  obtain ⟨second, after'⟩ := (h.symm.trans h).reply_shown script tags d
  rw [shown] at first after
  exact ⟨first.trans second.symm, after.trans after'.symm⟩

end Alike

theorem handler_blind {script : Script} (blind : script.Blind) :
    (handler script).Blind Alike where
  log r s t h := ⟨h.memory, congrArg (·.add r) h.journal, h.calls, h.saves⟩
  answer tags c d s t shown h := by
    have noted : Alike { s with calls := s.calls ++ [c] } { t with calls := t.calls ++ [d] } := by
      refine ⟨h.memory, h.journal, ?_, h.saves⟩
      rw [List.map_append, List.map_append, h.calls, List.map_singleton, List.map_singleton, shown]
    simp only [handler, answer]
    rw [blind c d shown]
    cases script.fault d with
    | none => exact noted.reply script tags shown
    | some f =>
        refine ⟨?_, noted⟩
        dsimp only
        rw [Call.answer_eq shown]

end Stage

/-- A teardown keeps what is secret in a record to itself. Rehearsed in memory under one script, with
two records that the checks cannot tell apart, it logs the same, makes calls that show the same (all
texts for the user among them), and ends with the same outcome or the same fault. -/
theorem run_discreet (script : Script) (blind : script.Blind) (supported : List Provider)
    (arguments : List String) (p : Progress) (e : Environment) (alike : p.env.Alike e)
    (s : Stage) (memory : s.store = none) (k : Environment) :
    let known := (run supported arguments p).perform (Stage.handler script) s
    let other := (run supported arguments { p with env := e }).perform (Stage.handler script)
      { s with kept := k }
    known.1.1 = other.1.1 ∧ known.2.host.journal = other.2.host.journal ∧
      known.2.calls.map Call.shown = other.2.calls.map Call.shown := by
  intro known other
  have start : Progress.Alike .checked p { p with env := e } := ⟨alike, rfl, rfl⟩
  have stages : s.Alike { s with kept := k } := ⟨⟨memory, memory⟩, rfl, rfl, rfl⟩
  obtain ⟨ended, shown⟩ := (run_alike supported arguments p { p with env := e } start).perform
    (Stage.handler_blind blind) stages
  exact ⟨ended.result, shown.journal, shown.calls⟩

/-- Two environments whose directors have different passwords, one of them with keys as well. -/
theorem run_discreet_halfway :
    let e : Environment := { provider := .aws, envId := "lake",
                             director := { name := "lake", password := "first" } }
    let e' : Environment := { provider := .aws, envId := "lake", aws := { accessKeyId := "key" },
                              director := { name := "lake", password := "second" } }
    let known := (run Provider.all ["-n"] { env := e }).perform (Stage.handler halfway) { kept := e }
    let other := (run Provider.all ["-n"] { env := e' }).perform (Stage.handler halfway) { kept := e' }
    e.Alike e' ∧ halfway.Blind ∧ known.1.1 = other.1.1 ∧
      known.2.host.journal = other.2.host.journal ∧
      known.2.calls.map Call.shown = other.2.calls.map Call.shown := by
  intro e e' known other
  have alike : e.Alike e' := ⟨rfl, rfl, rfl, rfl, rfl, by decide, by decide⟩
  have blind : halfway.Blind := Script.blind_of_shown fun c => by cases c <;> rfl
  exact ⟨alike, blind,
    run_discreet halfway blind Provider.all ["-n"] { env := e } e' alike { kept := e } rfl e'⟩

end Dismantle.Teardown
