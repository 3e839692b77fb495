import Dismantle.Fault.Report
import Dismantle.Proofs.Teardown.Rehearsal
/-! Runs stop at the first fault: up to the call that fails a run is the one in which no call fails,
and after it there is at most one saving, of what a failed deletion left. -/
namespace Dismantle.Teardown

/-- A stack that is missing is an answer, if it was asked for. -/
def Call.excuses : Call → Fault → Bool
  | .describeStack _, .missingStack _ => true
  | _, _ => false

def Handler.calm (answer : (c : Call) → c.Answer) : Handler Unit where
  log _ s := s
  answer _ c s := (.ok (answer c), s)

/-- A handler that lets calls fail as it likes, and answers the others as `answer` does. -/
structure Handler.Follows {σ : Type} (h : Handler σ) (answer : (c : Call) → c.Answer) : Prop where
  agrees : ∀ tags c s a, (h.answer tags c s).1 = .ok a → a = answer c
  unexcused : ∀ tags c s f, (h.answer tags c s).1 = .error f → c.excuses f = false

/-- What follows a call that failed with `f`, and the fault in which this ends. -/
inductive Aftermath (c : Call) (f : Fault) : List Exchange → Fault → Prop where
  /-- Nothing was told of what is left, and nothing is called any more. -/
  | silent : ¬Exchange.Remnant ⟨c, .error f⟩ → Aftermath c f [] f
  | saved (e : Environment) : Exchange.Remnant ⟨c, .error f⟩ →
      Aftermath c f [⟨.save e, .ok ()⟩] f
  /-- The fault that was to be saved comes first, and is the cause. -/
  | unsaved (e : Environment) (g : Fault) : Exchange.Remnant ⟨c, .error f⟩ →
      (Fault.several [f, g]).cause = some f →
      Aftermath c f [⟨.save e, .error g⟩] (.several [f, g])

/-- A history and its result beside those of the run in which no call fails: they are the same, or
part at the first call that fails. -/
inductive Truncated {α : Type} (answer : (c : Call) → c.Answer) (calm : List Exchange)
    (r : Except Fault α × Progress) : List Exchange → Except Fault α × Progress → Prop where
  | whole : Truncated answer calm r calm r
  | stopped (before : List Exchange) {after rest : List Exchange} {c : Call} {f last : Fault}
      (p : Progress) :
      calm = before ++ ⟨c, .ok (answer c)⟩ :: after → Aftermath c f rest last →
      Truncated answer calm r (before ++ ⟨c, .error f⟩ :: rest) (.error last, p)

theorem Truncated.cons {α : Type} {answer : (c : Call) → c.Answer} {calm es : List Exchange}
    {r r' : Except Fault α × Progress} (h : Truncated answer calm r es r') (x : Exchange) :
    Truncated answer (x :: calm) r (x :: es) r' := by
  cases h with
  | whole => exact .whole
  | stopped before p same aftermath =>
      exact .stopped (x :: before) p (congrArg (x :: ·) same) aftermath

namespace Program
variable {α β σ : Type}

/-- Whichever call of a program fails first, what is left of the program is its aftermath. -/
def FailStop : Program (Except Fault α × Progress) → Prop
  | .done _ => True
  | .log _ next => next.FailStop
  | .call _ c next =>
    (∀ f, c.excuses f = false → (next (.error f)).Ensures fun es r =>
      ∃ last, r.1 = .error last ∧ Aftermath c f es last) ∧
    ∀ a, (next (.ok a)).FailStop

theorem FailStop.bind {p : Program (Except Fault α × Progress)}
    {k : Except Fault α × Progress → Program (Except Fault β × Progress)} (hp : p.FailStop)
    (fails : ∀ f q, ∃ q', k (.error f, q) = .done (.error f, q'))
    (succeeds : ∀ a q, (k (.ok a, q)).FailStop) : (p.bind k).FailStop := by
  induction p with
  | done r =>
      obtain ⟨f | a, q⟩ := r
      · obtain ⟨q', ended⟩ := fails f q
        simp only [Program.bind, ended, FailStop]
      · exact succeeds a q
  | log r next ih => exact ih hp
  | call tags c next ih =>
      refine ⟨fun f unexcused => ?_, fun a => ih _ (hp.2 a)⟩
      refine (ensures_bind _ _ _).mpr ((hp.1 f unexcused).mono ?_)
      rintro es ⟨r, q⟩ ⟨last, rfl, aftermath⟩
      obtain ⟨q', ended⟩ := fails last q
      rw [ended]
      exact ⟨last, rfl, by rwa [List.append_nil]⟩

/-- Whoever lets its calls fail, a program that stops at faults does so. -/
theorem FailStop.truncated {p : Program (Except Fault α × Progress)} (hp : p.FailStop)
    {h : Handler σ} {answer : (c : Call) → c.Answer} (follows : h.Follows answer) (s : σ) :
    Truncated answer (p.history (Handler.calm answer) ()) (p.perform (Handler.calm answer) ()).1
      (p.history h s) (p.perform h s).1 := by
  induction p generalizing s with
  | done r => exact .whole
  | log r next ih => exact ih hp (h.log r s)
  | call tags c next ih =>
      simp only [history, perform, Handler.calm]
      cases given : (h.answer tags c s).1 with
      | error f =>
          have unexcused := follows.unexcused tags c s f given
          obtain ⟨last, ended, aftermath⟩ := (hp.1 f unexcused).performed h (h.answer tags c s).2
          have split : (next (.error f)).perform h (h.answer tags c s).2 =
              ((.error last, _), _) := Prod.ext (Prod.ext ended rfl) rfl
          rw [split]
          exact .stopped [] _ rfl aftermath
      | ok a =>
          rw [follows.agrees tags c s a given]
          exact (ih _ (hp.2 _) _).cons _

end Program

namespace Task
variable {α β : Type}

/-- Wherever it starts from, the task stops at the first call that fails. -/
structure FailStop (t : Task α) : Prop where
  program : ∀ p, (t p).FailStop

namespace FailStop

theorem pure (a : α) : (Pure.pure a : Task α).FailStop := ⟨fun _ => trivial⟩

theorem fail (f : Fault) : (Task.fail f : Task α).FailStop := ⟨fun _ => trivial⟩

theorem ofExcept (r : Except Fault α) : (Task.ofExcept r).FailStop := ⟨fun _ => trivial⟩

theorem env : Task.env.FailStop := ⟨fun _ => trivial⟩

theorem saved : Task.saved.FailStop := ⟨fun _ => trivial⟩

theorem change (f : Environment → Environment) : (Task.change f).FailStop := ⟨fun _ => trivial⟩

theorem log (level : Log.Level) (logger message : String) :
    (Task.log level logger message).FailStop := ⟨fun _ => trivial⟩

theorem bind {t : Task α} {f : α → Task β} (ht : t.FailStop) (hf : ∀ a, (f a).FailStop) :
    (t >>= f).FailStop :=
  ⟨fun p => (ht.program p).bind (fun _ q => ⟨q, rfl⟩) fun a q => (hf a).program q⟩

theorem within {t : Task α} (tags : Log.Tags) (ht : t.FailStop) :
    (Task.within tags t).FailStop :=
  ⟨fun p => (ht.program _).bind (fun _ q => ⟨{ q with tags := p.tags }, rfl⟩) fun _ _ => trivial⟩

/-- A task that goes on from a call's fault as from its answer. -/
theorem attempt_ask {c : Call} {k : Except Fault c.Answer → Task α}
    (fails : ∀ f p, c.excuses f = false → (k (.error f)).Ensures p fun es r _ =>
      ∃ last, r = .error last ∧ Aftermath c f es last)
    (succeeds : ∀ a, (k (.ok a)).FailStop) : (Task.attempt (Task.ask c) >>= k).FailStop :=
  ⟨fun p => ⟨fun f unexcused => fails f p unexcused, fun a => (succeeds a).program p⟩⟩

theorem attempt_tell {c : Call} {k : Except Fault Unit → Task α}
    (fails : ∀ f p, c.excuses f = false → (k (.error f)).Ensures p fun es r _ =>
      ∃ last, r = .error last ∧ Aftermath c f es last)
    (succeeds : (k (.ok ())).FailStop) : (Task.attempt (Task.tell c) >>= k).FailStop :=
  ⟨fun p => ⟨fun f unexcused => fails f p unexcused, fun _ => succeeds.program p⟩⟩

theorem ask {c : Call} (plain : ∀ f, ¬Exchange.Remnant ⟨c, .error f⟩) :
    (Task.ask c).FailStop :=
  ⟨fun _ => ⟨fun f _ => ⟨f, rfl, .silent (plain f)⟩, fun _ => trivial⟩⟩

theorem tell {c : Call} (plain : ∀ f, ¬Exchange.Remnant ⟨c, .error f⟩) :
    (Task.tell c).FailStop :=
  ⟨fun _ => ⟨fun f _ => ⟨f, rfl, .silent (plain f)⟩, fun _ => trivial⟩⟩

theorem checkpoint (label : String) : (Task.checkpoint label).FailStop := by
  refine .bind .env fun e => ?_
  refine .attempt_tell (fun f p _ => ?_) ?_
  · exact ⟨f, rfl, .silent nofun⟩
  · refine .bind ⟨fun _ => trivial⟩ fun _ => ?_
    exact .bind .saved fun n => .log _ _ _

end FailStop

/-- What is left is put on record and saved, and the fault, or both, ends the task. -/
theorem ensures_aftermath {c : Call} {f : Fault} (remnant : Exchange.Remnant ⟨c, .error f⟩)
    (change : Environment → Environment) (label : String) (p : Progress) :
    (do Task.change change; Task.checkpointThenFail label f : Task α).Ensures p fun es r _ =>
      ∃ last, r = .error last ∧ Aftermath c f es last := by
  simp only [ensures_bind, ensures_change, ensures_checkpointThenFail]
  exact ⟨⟨f, rfl, .saved _ remnant⟩, fun g => ⟨_, rfl, .unsaved _ g remnant rfl⟩⟩

end Task

open Dismantle.Teardown.Task

theorem deleteDirector_failStop : deleteDirector.FailStop := by
  refine .bind .env fun e => ?_
  split
  case isTrue => exact .tell nofun
  case isFalse =>
      refine .bind (.tell nofun) fun _ => .bind (.log _ _ _) fun _ => ?_
      refine .attempt_tell (fun f p _ => ?_) ?_
      · dsimp only
        split
        case h_1 left cause same =>
            cases same
            rw [ensures_bind, ensures_log]
            exact ensures_aftermath (.director e left cause) _ _ p
        case h_2 g other same =>
            cases same
            refine ⟨f, rfl, .silent fun remnant => ?_⟩
            cases remnant with
            | director e left cause => exact other left cause rfl
        case h_3 same => cases same
      · exact .bind (.change _) fun _ => .checkpoint _

theorem noStack_failStop : noStack.FailStop := .tell nofun

theorem deleteStack_failStop : deleteStack.FailStop := by
  refine .bind .env fun e => ?_
  dsimp only
  split
  case isTrue => exact noStack_failStop
  case isFalse =>
      refine .attempt_ask (fun f p unexcused => ?_) fun stack => ?_
      · split
        case h_1 name same =>
            cases same
            cases unexcused
        case h_2 g other same =>
            cases same
            exact ⟨f, rfl, .silent nofun⟩
        case h_3 same => cases same
      · refine .bind (.tell nofun) fun _ => .bind (.tell nofun) fun _ => ?_
        refine .bind (.tell nofun) fun _ => ?_
        exact .bind (.change _) fun _ => .checkpoint _

theorem deleteCertificate_failStop : deleteCertificate.FailStop := by
  refine .bind .env fun e => ?_
  split
  case isTrue =>
      refine .bind (.tell nofun) fun _ => .bind (.tell nofun) fun _ => ?_
      exact .bind (.change _) fun _ => .checkpoint _
  case isFalse => exact .pure ()

theorem tearDownStack_failStop : tearDownStack.FailStop :=
  .bind deleteStack_failStop fun _ => deleteCertificate_failStop

theorem tearDownAws_failStop : tearDownAws.FailStop := by
  refine .bind tearDownStack_failStop fun _ => .bind (.tell nofun) fun _ => ?_
  refine .bind .env fun e => .bind (.tell nofun) fun _ => ?_
  exact .bind (.change _) fun _ => .checkpoint _

theorem destroyInfrastructure_failStop : destroyInfrastructure.FailStop := by
  refine .bind .env fun e => ?_
  refine .attempt_ask (fun f p _ => ?_) fun tfState => .change _
  dsimp only
  split
  case h_1 tfState cause same =>
      cases same
      rw [ensures_bind, ensures_log]
      exact ensures_aftermath (.infrastructure _ tfState cause) _ _ p
  case h_2 g other same =>
      cases same
      refine ⟨f, rfl, .silent fun remnant => ?_⟩
      cases remnant with
      | infrastructure d tfState cause => exact other tfState cause rfl
  case h_3 same => cases same

theorem tearDownGcp_failStop : tearDownGcp.FailStop := by
  refine .bind .env fun e => .bind (.ask nofun) fun outputs => ?_
  refine .bind (.tell nofun) fun _ => .bind (.tell nofun) fun _ => ?_
  refine .bind destroyInfrastructure_failStop fun _ => ?_
  refine .bind (.tell nofun) fun _ => .bind (.tell nofun) fun _ => ?_
  exact .bind (.change _) fun _ => .checkpoint _

theorem tearDown_failStop (provider : Provider) : (tearDown provider).FailStop := by
  cases provider with
  | unset => exact tearDownStack_failStop
  | aws => exact tearDownAws_failStop
  | gcp => exact tearDownGcp_failStop

theorem skipMissing_failStop (flags : Flags) (e : Environment) :
    (skipMissing flags e).FailStop := by
  unfold skipMissing
  split
  · exact .bind (.tell nofun) fun _ => .pure true
  · exact .pure false

theorem confirm_failStop (flags : Flags) (e : Environment) : (confirm flags e).FailStop := by
  unfold confirm
  split
  · exact .pure true
  refine .bind (.ask nofun) fun answer => ?_
  split
  · exact .pure true
  · exact .bind (.log _ _ _) fun _ => .bind (.tell nofun) fun _ => .pure false

theorem checkVersion_failStop : checkVersion.FailStop :=
  .bind (.ask nofun) fun _ => .bind (.ofExcept _) fun _ => .log _ _ _

theorem validateCredentials_failStop (e : Environment) : (validateCredentials e).FailStop := by
  unfold validateCredentials
  split
  · exact .tell nofun
  · exact .tell nofun
  · exact .log _ _ _

theorem dismantle_failStop (provider : Provider) (envId : String) :
    (dismantle provider envId).FailStop := by
  refine .bind (.log _ _ _) fun _ => ?_
  refine .bind (.within _ deleteDirector_failStop) fun _ => ?_
  exact .bind (.within _ (tearDown_failStop provider)) fun _ => .log _ _ _

theorem runGuarded_failStop (supported : List Provider) (flags : Flags) (e : Environment) :
    (runGuarded supported flags e).FailStop := by
  refine .bind (skipMissing_failStop flags e) fun skipped => ?_
  split
  · exact .pure _
  refine .bind (.tell nofun) fun _ => .bind (confirm_failStop flags e) fun agreed => ?_
  split
  · exact .pure _
  refine .bind checkVersion_failStop fun _ => .bind (validateCredentials_failStop e) fun _ => ?_
  dsimp only
  split
  · exact .bind (.fail _) fun _ => .bind (dismantle_failStop _ _) fun _ => .pure _
  · exact .bind (dismantle_failStop _ _) fun _ => .pure _

theorem run_stops (supported : List Provider) (arguments : List String) :
    (run supported arguments).FailStop := by
  refine .bind .saved fun before => .bind (.ofExcept _) fun flags => .bind .env fun e => ?_
  refine .bind (.within _ (runGuarded_failStop supported flags e)) fun status => ?_
  exact .bind .saved fun now => .pure _

/-- What a script answers to the calls that it does not let fail. -/
def Script.answers (script : Script) : (c : Call) → c.Answer
  | .prompt _ => script.answer
  | .terraformVersion => script.version
  | .describeStack _ => script.stack
  | .terraformOutputs _ => script.outputs.toOption.getD {}
  | .terraformDestroy _ => (Stage.leftState script.destroyed).toOption.getD ""
  | .validateRecord _ | .step _ | .note _ | .validateAws _ | .validateGcp _ | .deleteDirector _
  | .checkVpc _ | .deleteStack _ | .deleteCertificate _ | .deleteAwsKeyPair _ | .checkNetwork _
  | .deleteGcpKeyPair _ | .save _ => ()

theorem Except.toOption_getD {ε β : Type} {r : Except ε β} {b : β} (h : r = .ok b) (default : β) :
    r.toOption.getD default = b := by
  rw [h]
  rfl

theorem Stage.handler_follows (script : Script)
    (unexcused : ∀ c f, script.fault c = some f → c.excuses f = false) :
    (Stage.handler script).Follows script.answers := by
  constructor
  · intro tags c s a given
    simp only [handler, answer] at given
    split at given
    · cases given
    cases c with
    | terraformOutputs e => exact (Except.toOption_getD given _).symm
    | terraformDestroy d => exact (Except.toOption_getD given _).symm
    | prompt | terraformVersion | describeStack => exact (Except.ok.inj given).symm
    | _ => rfl
  · intro tags c s f given
    simp only [handler, answer] at given
    split at given
    case h_1 g fault => exact Except.error.inj given ▸ unexcused c g fault
    case h_2 =>
        cases c with
        | describeStack => cases given
        | _ => rfl

/-- Half of the director is left when deleting it fails, and nothing can be saved. -/
def stranded : Script := { halfway with saveFault := fun _ => some (.plain .system "disk full") }

theorem stranded_unexcused (c : Call) (f : Fault) (fault : stranded.fault c = some f) :
    c.excuses f = false := by
  cases c with
  | describeStack => cases fault
  | _ => rfl

end Dismantle.Teardown
