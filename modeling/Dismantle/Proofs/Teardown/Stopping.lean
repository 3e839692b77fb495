import Dismantle.Proofs.Teardown.Episode
/-! Calls that nothing goes on after: where one of them fails, its fault ends the run at once. The
others are those whose faults a run looks at before it ends, or goes on. -/
namespace Dismantle.Teardown

/-- The calls whose faults are looked at. -/
def Call.isCaught : Call → Bool
  | .deleteDirector _ | .describeStack _ | .terraformDestroy _ | .save _ => true
  | _ => false

namespace Program
variable {α β σ : Type}

/-- Whenever a call fails that is not caught, the program is done and has failed with its fault. -/
def Stops : Program (Except Fault α × Progress) → Prop
  | .done _ => True
  | .log _ next => next.Stops
  | .call _ c next =>
    (c.isCaught = false → ∀ f, ∃ p, next (.error f) = .done (.error f, p)) ∧
      ∀ answer, (next answer).Stops

theorem Stops.bind {p : Program (Except Fault α × Progress)}
    {k : Except Fault α × Progress → Program (Except Fault β × Progress)} (hp : p.Stops)
    (fails : ∀ f q, ∃ q', k (.error f, q) = .done (.error f, q'))
    (succeeds : ∀ a q, (k (.ok a, q)).Stops) : (p.bind k).Stops := by
  induction p with
  | done r =>
      obtain ⟨f | a, q⟩ := r
      · obtain ⟨q', ended⟩ := fails f q
        simp only [Program.bind, ended, Stops]
      · exact succeeds a q
  | log r next ih => exact ih hp
  | call tags c next ih =>
      refine ⟨fun uncaught f => ?_, fun answer => ih answer (hp.2 answer)⟩
      obtain ⟨q, ended⟩ := hp.1 uncaught f
      simp only [ended, Program.bind]
      exact fails f q

/-- Whoever answers its calls, a program that stops does so where one fails that is not caught. -/
theorem Stops.stopped {p : Program (Except Fault α × Progress)} (hp : p.Stops) {h : Handler σ}
    {s : σ} {before after : List (Episode σ)} {x : Episode σ} {f : Fault}
    (split : p.episodes h s = before ++ x :: after) (uncaught : x.exchange.call.isCaught = false)
    (failed : x.exchange.answer = .error f) : after = [] ∧ (p.perform h s).1.1 = .error f := by
  induction p generalizing s before with
  | done r => simp [episodes] at split
  | log r next ih => exact ih hp split
  | call tags c next ih =>
      simp only [episodes] at split
      cases before with
      | nil =>
          obtain ⟨rfl, rfl⟩ := List.cons.inj split
          obtain ⟨q, ended⟩ := hp.1 uncaught f
          have given : (h.answer tags c s).1 = .error f := failed
          simp only [perform, given, ended, episodes, true_and]
      | cons y before => exact ih _ (hp.2 _) (List.cons.inj split).2

end Program

namespace Task
variable {α β : Type}

/-- Wherever it starts from, the task stops where a call fails that is not caught. -/
structure Stops (t : Task α) : Prop where
  program : ∀ p, (t p).Stops

namespace Stops

theorem pure (a : α) : (Pure.pure a : Task α).Stops := ⟨fun _ => trivial⟩

theorem fail (f : Fault) : (Task.fail f : Task α).Stops := ⟨fun _ => trivial⟩

theorem ofExcept (r : Except Fault α) : (Task.ofExcept r).Stops := ⟨fun _ => trivial⟩

theorem env : Task.env.Stops := ⟨fun _ => trivial⟩

theorem saved : Task.saved.Stops := ⟨fun _ => trivial⟩

theorem change (f : Environment → Environment) : (Task.change f).Stops := ⟨fun _ => trivial⟩

theorem log (level : Log.Level) (logger message : String) :
    (Task.log level logger message).Stops := ⟨fun _ => trivial⟩

theorem ask (c : Call) : (Task.ask c).Stops := ⟨fun p => ⟨fun _ _ => ⟨p, rfl⟩, fun _ => trivial⟩⟩

theorem tell (c : Call) : (Task.tell c).Stops := ⟨fun p => ⟨fun _ _ => ⟨p, rfl⟩, fun _ => trivial⟩⟩

theorem attempt_ask {c : Call} (caught : c.isCaught = true) : (Task.attempt (Task.ask c)).Stops :=
  ⟨fun _ => ⟨fun uncaught => (nomatch caught.symm.trans uncaught), fun _ => trivial⟩⟩

theorem attempt_tell {c : Call} (caught : c.isCaught = true) : (Task.attempt (Task.tell c)).Stops :=
  ⟨fun _ => ⟨fun uncaught => (nomatch caught.symm.trans uncaught), fun _ => trivial⟩⟩

theorem bind {t : Task α} {f : α → Task β} (ht : t.Stops) (hf : ∀ a, (f a).Stops) :
    (t >>= f).Stops :=
  ⟨fun p => (ht.program p).bind (fun _ q => ⟨q, rfl⟩) fun a q => (hf a).program q⟩

theorem within {t : Task α} (tags : Log.Tags) (ht : t.Stops) : (Task.within tags t).Stops :=
  ⟨fun p => (ht.program _).bind (fun _ q => ⟨{ q with tags := p.tags }, rfl⟩) fun _ _ => trivial⟩

theorem checkpoint (label : String) : (Task.checkpoint label).Stops := by
  refine .bind .env fun e => .bind (.attempt_tell rfl) fun r => ?_
  split
  · exact .bind (.log _ _ _) fun _ => .fail _
  · refine .bind ⟨fun _ => trivial⟩ fun _ => ?_
    exact .bind .saved fun n => .log _ _ _

theorem checkpointThenFail (label : String) (f : Fault) :
    (Task.checkpointThenFail label f : Task α).Stops := by
  -- The only call is a saving, whose fault is looked at.
  have saving : (Task.attempt (Task.checkpoint label)).Stops :=
    ⟨fun _ => ⟨nofun, fun answer => by cases answer <;> trivial⟩⟩
  refine .bind saving fun r => ?_
  split <;> exact .fail _

end Stops
end Task

open Dismantle.Teardown.Task

theorem deleteDirector_stops : deleteDirector.Stops := by
  refine .bind .env fun e => ?_
  split
  case isTrue => exact .tell _
  case isFalse =>
      refine .bind (.tell _) fun _ => .bind (.log _ _ _) fun _ => ?_
      refine .bind (.attempt_tell rfl) fun r => ?_
      split
      · refine .bind (.log _ _ _) fun _ => ?_
        exact .bind (.change _) fun _ => .checkpointThenFail _ _
      · exact .fail _
      · exact .bind (.change _) fun _ => .checkpoint _

theorem deleteStack_stops : deleteStack.Stops := by
  refine .bind .env fun e => ?_
  dsimp only
  split
  case isTrue => exact .tell _
  case isFalse =>
      refine .bind (.attempt_ask rfl) fun r => ?_
      split
      · exact .bind (.log _ _ _) fun _ => .tell _
      · exact .fail _
      · refine .bind (.tell _) fun _ => .bind (.tell _) fun _ => .bind (.tell _) fun _ => ?_
        exact .bind (.change _) fun _ => .checkpoint _

theorem deleteCertificate_stops : deleteCertificate.Stops := by
  refine .bind .env fun e => ?_
  split
  case isTrue =>
      refine .bind (.tell _) fun _ => .bind (.tell _) fun _ => ?_
      exact .bind (.change _) fun _ => .checkpoint _
  case isFalse => exact .pure ()

theorem tearDownStack_stops : tearDownStack.Stops :=
  .bind deleteStack_stops fun _ => deleteCertificate_stops

theorem tearDownAws_stops : tearDownAws.Stops := by
  refine .bind tearDownStack_stops fun _ => .bind (.tell _) fun _ => .bind .env fun e => ?_
  exact .bind (.tell _) fun _ => .bind (.change _) fun _ => .checkpoint _

theorem destroyInfrastructure_stops : destroyInfrastructure.Stops := by
  refine .bind .env fun e => .bind (.attempt_ask rfl) fun r => ?_
  split
  · refine .bind (.log _ _ _) fun _ => ?_
    exact .bind (.change _) fun _ => .checkpointThenFail _ _
  · exact .fail _
  · exact .change _

theorem tearDownGcp_stops : tearDownGcp.Stops := by
  refine .bind .env fun e => .bind (.ask _) fun outputs => .bind (.tell _) fun _ => ?_
  refine .bind (.tell _) fun _ => .bind destroyInfrastructure_stops fun _ => ?_
  refine .bind (.tell _) fun _ => .bind (.tell _) fun _ => ?_
  exact .bind (.change _) fun _ => .checkpoint _

theorem tearDown_stops (provider : Provider) : (tearDown provider).Stops := by
  cases provider with
  | unset => exact tearDownStack_stops
  | aws => exact tearDownAws_stops
  | gcp => exact tearDownGcp_stops

theorem skipMissing_stops (flags : Flags) (e : Environment) : (skipMissing flags e).Stops := by
  unfold skipMissing
  split
  · exact .bind (.tell _) fun _ => .pure true
  · exact .pure false

theorem confirm_stops (flags : Flags) (e : Environment) : (confirm flags e).Stops := by
  unfold confirm
  split
  · exact .pure true
  refine .bind (.ask _) fun answer => ?_
  split
  · exact .pure true
  · exact .bind (.log _ _ _) fun _ => .bind (.tell _) fun _ => .pure false

theorem checkVersion_stops : checkVersion.Stops :=
  .bind (.ask _) fun _ => .bind (.ofExcept _) fun _ => .log _ _ _

theorem validateCredentials_stops (e : Environment) : (validateCredentials e).Stops := by
  unfold validateCredentials
  split
  · exact .tell _
  · exact .tell _
  · exact .log _ _ _

theorem dismantle_stops (provider : Provider) (envId : String) :
    (dismantle provider envId).Stops := by
  refine .bind (.log _ _ _) fun _ => .bind (.within _ deleteDirector_stops) fun _ => ?_
  exact .bind (.within _ (tearDown_stops provider)) fun _ => .log _ _ _

theorem runGuarded_stops (supported : List Provider) (flags : Flags) (e : Environment) :
    (runGuarded supported flags e).Stops := by
  refine .bind (skipMissing_stops flags e) fun skipped => ?_
  split
  · exact .pure _
  refine .bind (.tell _) fun _ => .bind (confirm_stops flags e) fun agreed => ?_
  split
  · exact .pure _
  refine .bind checkVersion_stops fun _ => .bind (validateCredentials_stops e) fun _ => ?_
  dsimp only
  split
  · exact .bind (.fail _) fun _ => .bind (dismantle_stops _ _) fun _ => .pure _
  · exact .bind (dismantle_stops _ _) fun _ => .pure _

/-- Whichever call of a run fails that is not caught, the run ends there. -/
theorem run_stopsAtOnce (supported : List Provider) (arguments : List String) :
    (run supported arguments).Stops := by
  refine .bind .saved fun before => .bind (.ofExcept _) fun flags => .bind .env fun e => ?_
  refine .bind (.within _ (runGuarded_stops supported flags e)) fun status => ?_
  exact .bind .saved fun now => .pure _

end Dismantle.Teardown
