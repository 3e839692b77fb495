import Dismantle.Proofs.Aws.Errand
import Dismantle.Proofs.Fault.Classify
/-! What becomes of a request for which there are no credentials. Where credentials are checked it
is reported; elsewhere nothing is made of it. -/
namespace Dismantle

/-- There are no credentials to ask a service with, or only a part of them. -/
inductive Fault.LacksCredentials : Fault → Prop where
  | none : LacksCredentials .noCredentials
  | part (provider missing : String) : LacksCredentials (.partialCredentials provider missing)

theorem Fault.LacksCredentials.classify {f : Fault} (lacks : f.LacksCredentials)
    (c : Circumstances) :
    (f.classify c).IsCredential ∧ (f.classify c).cause = some f := by
  cases lacks with
  | none | part => exact ⟨trivial, rfl⟩

namespace Aws

namespace Desk
variable {d : Desk}

/-- Whose credentials these are is asked once, and a fault is passed on. -/
def Asked (es : List Contact) (r : Except Fault Identity) : Prop :=
  ∃ reply, es = [.request ⟨⟨"sts.get_caller_identity", []⟩, reply⟩] ∧
    ∀ f, reply.fault = some f → r = .error f

theorem askIdentity_asked (d : Desk) :
    askIdentity.Engages Desk.host d fun es r _ => Asked es r := by
  refine (client_quiet _).engages_bind fun _ d' => ?_
  refine Act.engages_bind (request_engages rfl fun reply d'' => ?_)
  cases came : reply.result with
  | error f =>
      have fault := CloudReply.result_eq_error came
      exact ⟨reply, rfl, fun g failed => congrArg _ (Option.some.inj (fault.symm.trans failed))⟩
  | ok v =>
      have fault := (CloudReply.result_eq_ok came).1
      have asked (r : Except Fault Identity) :
          Asked [.request ⟨⟨"sts.get_caller_identity", []⟩, reply⟩] r :=
        ⟨reply, rfl, fun g failed => nomatch fault.symm.trans failed⟩
      refine session_quiet.engages_bind fun s d' => ?_
      refine Act.engages_bind (Act.engages_ofExcept ?_)
      split
      · refine (remember_quiet _).engages_bind fun _ d' => ?_
        exact (note_quiet _ _ _).engages_bind fun _ d' => Act.engages_pure (asked _)
      · exact asked _

theorem verify_asked (unverified : d.manager.identity = none) :
    verify.Engages Desk.host d fun es r _ => Asked es r := by
  unfold Act.Engages verify
  split
  case h_1 known => cases unverified.symm.trans known
  case h_2 =>
      refine Act.engages_bind (Q := fun es r _ => Asked es r) (s := d)
        (Act.engages_attempt ((askIdentity_asked d).mono fun es r d' asked => ?_))
      rw [← List.append_nil es] at asked
      cases r with
      | ok identity => exact Act.engages_pure asked
      | error f =>
          dsimp only
          split
          · exact (note_quiet _ _ _).engages_bind fun _ d' => Act.engages_fail asked
          · exact Act.engages_fail asked

end Desk
end Aws

namespace Credentials

/-- All that is needed to verify credentials is recorded. -/
def AllGiven (a : AwsAccount) : Prop := a.accessKeyId ≠ "" ∧ a.secretAccessKey ≠ "" ∧ a.region ≠ ""

theorem checkAws_of_fault {a : AwsAccount} (given : AllGiven a) {h : Host} {f : Fault}
    (fault : (h.cloud.call "sts.get_caller_identity" []).1.fault = some f) :
    (checkAws a h).1 = .error (f.classify circumstances) := by
  let d : Aws.Desk := { host := h, manager := { keys := keysOf a } }
  obtain ⟨es, contacts, reply, rfl, failed⟩ := Aws.Desk.verify_asked (d := d) rfl
  have answered : reply = (h.cloud.call "sts.get_caller_identity" []).1 := contacts.first_reply
  rw [← answered] at fault
  have refused : (verify (keysOf a) h).1 = .error (f.classify circumstances) :=
    congrArg (·.mapError (·.classify circumstances)) (failed f fault)
  have demanded : demandAll [("AWS access key ID", a.accessKeyId),
      ("AWS secret access key", a.secretAccessKey), ("AWS region", a.region)] = .ok () := by
    simp [demandAll, given.1, given.2.1, given.2.2]
  rw [checkAws, Act.bind_apply, Act.ofExcept, demanded]
  dsimp only
  rw [Act.bind_apply]
  revert refused
  rcases verify (keysOf a) h with ⟨r, h'⟩
  rintro rfl
  rfl

end Credentials

namespace Aws.Errand

/-- Credentials that are missing are reported where credentials are checked. An errand that has no
credentials fails with the bare fault, which is not a report. -/
theorem missingCredentials_surface {f : Fault} (lacks : f.LacksCredentials) :
    (∀ a h, Credentials.AllGiven a → (h.cloud.call "sts.get_caller_identity" []).1.fault = some f →
      ∃ report, (Credentials.checkAws a h).1 = .error report ∧ report.IsCredential ∧
        report.cause = some f) ∧
    ∀ (e : Errand) d, e.Fails d f → (e.perform d).1 = .error f ∧ f.isReport = false := by
  refine ⟨fun a h given fault => ?_, fun e d fails => ?_⟩
  · exact ⟨_, Credentials.checkAws_of_fault given fault, lacks.classify _⟩
  · rw [perform_fails fails]
    cases lacks with
    | none | part => exact ⟨rfl, rfl⟩

def barredDesk : Desk where
  host := { cloud := { replies := [
    ("cloudformation.describe_stacks", [{ fault := some .noCredentials }])] } }
  manager := { keys := {} }

theorem barredDesk_fails : Fails (.describeStack "some-stack") barredDesk .noCredentials :=
  ⟨trivial, rfl, trivial⟩

theorem missingCredentials_surface_describe : Fault.LacksCredentials .noCredentials ∧
    Fails (.describeStack "some-stack") barredDesk .noCredentials ∧
      (perform (.describeStack "some-stack") barredDesk).1 = .error .noCredentials :=
  ⟨.none, barredDesk_fails, ((missingCredentials_surface .none).2 _ _ barredDesk_fails).1⟩

/-- Not every errand reports that credentials are missing. -/
theorem missingCredentials_unreported : ¬∀ (e : Errand) d f, f.LacksCredentials → e.Fails d f →
    ∃ report, (e.perform d).1 = .error report ∧ report.IsCredential ∧ report.cause = some f := by
  intro reported
  obtain ⟨report, same, credential, -⟩ := reported _ _ _ .none barredDesk_fails
  rw [perform_fails barredDesk_fails] at same
  cases same
  exact credential

end Aws.Errand
end Dismantle
