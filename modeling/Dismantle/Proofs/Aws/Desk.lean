import Dismantle.Aws.Removal
import Dismantle.Credentials
import Dismantle.Proofs.Aws.Answer
import Dismantle.Proofs.Host.Engagement
/-! The requests that work with the service makes, and what its outcome says about the answers. -/
namespace Dismantle

def CloudReply.result (r : CloudReply) : Except Fault Json :=
  match r.fault with
  | some f => .error f
  | none => .ok r.value

theorem CloudReply.result_eq_ok {r : CloudReply} {v : Json} (h : r.result = .ok v) :
    r.fault = none ∧ r.value = v := by
  unfold result at h
  split at h
  case h_1 => cases h
  case h_2 fault => exact ⟨fault, Except.ok.inj h⟩

theorem CloudReply.result_eq_error {r : CloudReply} {f : Fault} (h : r.result = .error f) :
    r.fault = some f := by
  unfold result at h
  split at h
  case h_1 g fault => rw [fault, Except.error.inj h]
  case h_2 => cases h

namespace Aws

/-- The stack is described, and its deletion is not complete. -/
structure Describes (reply : CloudReply) (stack : Json) : Prop where
  fault : reply.fault = none
  first : firstStack reply.value = some stack
  present : ¬IsDeleted stack

/-- The service says that there is no such stack. -/
inductive ReportsMissing (reply : CloudReply) : Prop where
  | refused (f : ServiceFault) : reply.fault = some (.service f) → f.code = some "ValidationError" →
      "does not exist".toList <:+: (f.message.getD "").toList → ReportsMissing reply
  | unlisted : reply.fault = none → firstStack reply.value = none → ReportsMissing reply
  | deleted (stack : Json) : reply.fault = none → firstStack reply.value = some stack →
      IsDeleted stack → ReportsMissing reply

/-- A listing that has come to its end, with nothing in it but what the stack owns. -/
structure Vacant (reply : CloudReply) : Prop where
  fault : reply.fault = none
  owned : ∀ page ∈ reply.pages, ∀ i ∈ instancesOn page, IsOwned i

namespace Desk
variable {α : Type} {C : Contact → Prop} {d : Desk}

theorem onHost_quiet {act : Act Host α} (h : act.Quiet id) : (onHost act).Quiet Desk.host :=
  fun d => h d.host

theorem note_quiet (level : Log.Level) (logger message : String) :
    (note level logger message).Quiet Desk.host :=
  onHost_quiet (Host.note_quiet level logger message)

theorem record_quiet {name : String} {arguments : Fields}
    (silent : CloudCall.asks ⟨name, arguments⟩ = false) :
    (record name arguments).Quiet Desk.host :=
  fun _ => ⟨[], .made silent rfl rfl rfl, rfl, (), rfl⟩

theorem remember_quiet (f : Desk → Manager) :
    (Act.modify fun d => { d with manager := f d }).Quiet Desk.host :=
  Act.quiet_modify (fun _ => rfl) (fun _ => rfl) fun _ => rfl

theorem session_quiet : session.Quiet Desk.host := by
  intro d
  unfold Act.Engages session
  split
  case h_1 known _ => exact ⟨[], .quiet rfl rfl rfl, rfl, known, rfl⟩
  case h_2 =>
      refine Act.Quiet.bind (record_quiet rfl) (fun _ => ?_) d
      refine .bind (remember_quiet _) fun _ => ?_
      exact .bind (note_quiet _ _ _) fun _ => Act.quiet_pure _

theorem clientOf_quiet (service : String) : (clientOf service).Quiet Desk.host := by
  intro d
  unfold Act.Engages clientOf
  split
  case h_1 known _ => exact ⟨[], .quiet rfl rfl rfl, rfl, known, rfl⟩
  case h_2 =>
      refine Act.Quiet.bind session_quiet (fun _ => ?_) d
      refine .bind (record_quiet rfl) fun _ => ?_
      refine .bind (.bind Act.quiet_get fun _ => Act.quiet_pure _) fun n => ?_
      refine .bind (remember_quiet _) fun _ => ?_
      exact .bind (note_quiet _ _ _) fun _ => Act.quiet_pure _

theorem client_quiet (service : String) : (client service).Quiet Desk.host :=
  .bind (clientOf_quiet service) fun _ => Act.quiet_pure _

theorem call_engages {name : String} {arguments : Fields}
    {Q : List Contact → Except Fault CloudReply → Desk → Prop}
    (asks : CloudCall.asks ⟨name, arguments⟩ = true)
    (q : ∀ reply d', Q [.request ⟨⟨name, arguments⟩, reply⟩] (.ok reply) d') :
    (call name arguments).Engages Desk.host d Q :=
  ⟨_, .request asks rfl rfl rfl, q _ _⟩

theorem request_engages {name : String} {arguments : Fields}
    {Q : List Contact → Except Fault Json → Desk → Prop}
    (asks : CloudCall.asks ⟨name, arguments⟩ = true)
    (q : ∀ reply d', Q [.request ⟨⟨name, arguments⟩, reply⟩] reply.result d') :
    (request name arguments).Engages Desk.host d Q := by
  refine Act.engages_bind (call_engages asks fun reply d' => ?_)
  have came := q reply d'
  unfold CloudReply.result at came
  dsimp only
  split
  case h_1 f fault =>
      rw [fault] at came
      exact Act.engages_fail came
  case h_2 fault =>
      rw [fault] at came
      exact Act.engages_pure came

theorem classify_ne_missing (f : ServiceFault) (c : Circumstances) (name : String) :
    (Fault.service f).classify c ≠ .missingStack name := by
  simp only [Fault.classify, ServiceFault.report]
  split <;> exact nofun

/-- What describing a stack comes to, by what its request comes to. -/
def describedBy (name : String) : Except Fault Json → Except Fault Teardown.StackDescription
  | .ok answer => describedStack name answer
  | .error (.service f) => .error (if saysMissing f then .missingStack name else
      (Fault.service f).classify (about "stack" name "cloudformation" "describe_stacks"))
  | .error f => .error f

theorem describeStack_answered (name : String) (d : Desk) :
    (describeStack name).Engages Desk.host d fun es r _ => ∃ reply,
      es = [.request ⟨⟨"cloudformation.describe_stacks", [("StackName", .str name)]⟩, reply⟩] ∧
        r = describedBy name reply.result := by
  refine (client_quiet _).engages_bind fun _ d' => ?_
  refine Act.engages_bind (Act.engages_attempt (request_engages rfl fun reply d'' => ?_))
  dsimp only
  split
  case h_1 answer same => exact Act.engages_ofExcept ⟨reply, rfl, by rw [same]; rfl⟩
  case h_2 f same =>
      split
      case isTrue missing =>
          exact Act.engages_fail ⟨reply, rfl, by simp only [same, describedBy, if_pos missing]⟩
      case isFalse other =>
          exact Act.engages_fail ⟨reply, rfl, by simp only [same, describedBy, if_neg other]⟩
  case h_3 f other same =>
      refine Act.engages_fail ⟨reply, rfl, ?_⟩
      rw [same]
      cases f with
      | service f => exact absurd rfl (other f)
      | _ => rfl

/-- Describing a stack is one request. A stack that is given back is described by the answer; one
that is reported missing is so by the service. -/
theorem describeStack_engages (name : String) (d : Desk) :
    (describeStack name).Engages Desk.host d fun es r _ => ∃ reply,
      es = [.request ⟨⟨"cloudformation.describe_stacks", [("StackName", .str name)]⟩, reply⟩] ∧
        (∀ stack, r = .ok stack → ∃ described, Describes reply described ∧
          stack.vpcId = (networkOf described).getD (.str "")) ∧
        ∀ other, r = .error (.missingStack other) →
          ReportsMissing reply ∨ reply.fault = some (.missingStack other) := by
  refine (describeStack_answered name d).mono ?_
  rintro es _ d' ⟨reply, rfl, rfl⟩
  cases came : reply.result with
  | ok answer =>
      obtain ⟨fault, rfl⟩ := CloudReply.result_eq_ok came
      refine ⟨reply, rfl, fun stack ok => ?_, fun other missing => .inl ?_⟩
      · obtain ⟨described, first, present, vpc⟩ := describedStack_eq_ok ok
        exact ⟨described, ⟨fault, first, present⟩, vpc⟩
      · have deleted := describedStack_missing missing
        cases first : firstStack reply.value with
        | none => exact .unlisted fault first
        | some stack => exact .deleted stack fault first (deleted stack first)
  | error f =>
      have fault := CloudReply.result_eq_error came
      cases f with
      | service f =>
          refine ⟨reply, rfl, nofun, fun other same => .inl ?_⟩
          have told : (if saysMissing f then .missingStack name else
              (Fault.service f).classify (about "stack" name "cloudformation" "describe_stacks")) =
                .missingStack other := Except.error.inj same
          split at told
          case isTrue missing =>
              obtain ⟨code, message⟩ := saysMissing_iff.mp missing
              exact .refused f fault code message
          case isFalse => exact absurd told (classify_ne_missing f _ other)
      | _ =>
          refine ⟨reply, rfl, nofun, fun other same => .inr ?_⟩
          rw [fault, Except.error.inj same]

def reportedUnder (c : Circumstances) : Fault → Fault
  | .service f => (Fault.service f).classify c
  | f => f

/-- What deleting a stack comes to: the deletion fails, or it is accepted and waited for. -/
inductive Deleting (patience : Patience) (name : String) :
    List Contact → Except Fault Unit → Prop where
  | failed {reply : CloudReply} {f : Fault} : reply.fault = some f → Deleting patience name
      [.request ⟨⟨"cloudformation.delete_stack", [("StackName", .str name)]⟩, reply⟩]
      (.error (reportedUnder (about "stack" name "cloudformation" "delete_stack") f))
  | waited {reply waited : CloudReply} {r : Except Fault Unit} : reply.fault = none →
      (r = .ok () → waited.fault = none) → Deleting patience name
      [.request ⟨⟨"cloudformation.delete_stack", [("StackName", .str name)]⟩, reply⟩,
        .request ⟨⟨"cloudformation.wait.stack_delete_complete", waitArguments name patience⟩,
          waited⟩] r

theorem deleteStack_deleting (patience : Patience) (name : String) (d : Desk) :
    (deleteStack patience name).Engages Desk.host d fun es r _ => Deleting patience name es r := by
  refine (client_quiet _).engages_bind fun _ d' => ?_
  refine Act.engages_bind (Act.engages_mapFault (request_engages rfl fun reply d'' => ?_))
  cases came : reply.result with
  | error f =>
      have failed : Deleting patience name _ _ := .failed (CloudReply.result_eq_error came)
      cases f <;> exact failed
  | ok v =>
      have accepted := (CloudReply.result_eq_ok came).1
      refine (note_quiet _ _ _).engages_bind fun _ d' => ?_
      refine Act.engages_bind (Act.engages_attempt (request_engages rfl fun waited d'' => ?_))
      dsimp only
      split
      case h_1 => exact Act.engages_fail (.waited accepted nofun)
      case h_2 => exact Act.engages_fail (.waited accepted nofun)
      case h_3 v' ended =>
          have gone := (CloudReply.result_eq_ok ended).1
          refine (note_quiet _ _ _ _).mono ?_
          rintro es r d' ⟨rfl, -⟩
          exact .waited accepted fun _ => gone

theorem deleteStack_engages (p : Patience) (name : String) (d : Desk) :
    (deleteStack p name).Engages Desk.host d fun es r _ => ∃ reply,
      (es = [.request ⟨⟨"cloudformation.delete_stack", [("StackName", .str name)]⟩, reply⟩] ∧
        r ≠ .ok ()) ∨
      ∃ waited, es = [
          .request ⟨⟨"cloudformation.delete_stack", [("StackName", .str name)]⟩, reply⟩,
          .request ⟨⟨"cloudformation.wait.stack_delete_complete", waitArguments name p⟩, waited⟩] ∧
        (r = .ok () → reply.fault = none ∧ waited.fault = none) := by
  refine (deleteStack_deleting p name d).mono ?_
  rintro es r d' (@⟨reply, f, fault⟩ | @⟨reply, waited, _, accepted, gone⟩)
  · exact ⟨reply, .inl ⟨rfl, nofun⟩⟩
  · exact ⟨reply, .inr ⟨waited, rfl, fun passed => ⟨accepted, gone passed⟩⟩⟩

/-- What the check of a network comes to, by what is found in the listing of its instances. -/
inductive Judged (id : Json) (reply : CloudReply) : Except Fault Unit → Prop
  | refused {f : ServiceFault} (found : foreignInListing reply = .error (.service f)) :
      Judged id reply
        (.error ((Fault.service f).classify (about "vpc" id.display "ec2" "describe_instances")))
  | stopped {f : Fault} (found : foreignInListing reply = .error f) (other : ∀ s, f ≠ .service s) :
      Judged id reply (.error f)
  | unoccupied (found : foreignInListing reply = .ok []) : Judged id reply (.ok ())
  | occupied {names : List Json} (found : foreignInListing reply = .ok names) (some_ : names ≠ []) :
      Judged id reply (Json.sortedNames names >>= fun names =>
        .error (Fault.occupied "vpc" id.display names))

/-- A network that is not known passes; of any other the instances are listed once. -/
theorem checkVpc_judged (id : Json) (d : Desk) :
    (checkVpc id).Engages Desk.host d fun es r _ =>
      (es = [] ∧ id.counts = false) ∨
      ∃ reply, es = [.request ⟨⟨"ec2.paginate.describe_instances", listArguments id⟩, reply⟩] ∧
        Judged id reply r := by
  unfold checkVpc
  split
  case isTrue unknown =>
      refine (note_quiet _ _ _ _).mono ?_
      rintro es r d' ⟨rfl, -⟩
      exact .inl ⟨rfl, by simpa using unknown⟩
  case isFalse =>
      refine (client_quiet _).engages_bind fun _ d' => ?_
      refine Act.engages_bind (call_engages rfl fun reply d'' => ?_)
      refine Act.engages_bind (Act.engages_mapFault (Act.engages_ofExcept ?_))
      cases found : foreignInListing reply with
      | error f =>
          cases f with
          | service s => exact .inr ⟨reply, rfl, .refused found⟩
          | _ => exact .inr ⟨reply, rfl, .stopped found nofun⟩
      | ok names =>
          cases names with
          | nil => exact Act.engages_pure (.inr ⟨reply, rfl, .unoccupied found⟩)
          | cons name names =>
              have judged : Judged id reply _ := .occupied found (List.cons_ne_nil _ _)
              refine Act.engages_bind (Act.engages_ofExcept ?_)
              cases sorted : Json.sortedNames (name :: names) with
              | error f =>
                  rw [sorted] at judged
                  exact .inr ⟨reply, rfl, judged⟩
              | ok names =>
                  rw [sorted] at judged
                  exact Act.engages_fail (.inr ⟨reply, rfl, judged⟩)

theorem Judged.vacant {id : Json} {reply : CloudReply} {r : Except Fault Unit}
    (judged : Judged id reply r) (passed : r = .ok ()) : Vacant reply := by
  cases judged with
  | refused | stopped => cases passed
  | unoccupied found =>
      obtain ⟨fault, owned⟩ := foreignInListing_eq_nil found
      exact ⟨fault, owned⟩
  | occupied =>
      obtain ⟨_, -, passed⟩ := Except.bind_eq_ok passed
      cases passed

/-- A network passes if it is not known, or if the listing of its instances shows it to be vacant. -/
theorem checkVpc_engages (id : Json) (d : Desk) :
    (checkVpc id).Engages Desk.host d fun es r _ =>
      (es = [] ∧ id.counts = false) ∨
      ∃ reply, es = [.request ⟨⟨"ec2.paginate.describe_instances", listArguments id⟩, reply⟩] ∧
        (r = .ok () → Vacant reply) := by
  refine (checkVpc_judged id d).mono fun es r d' => Or.imp_right ?_
  rintro ⟨reply, listed, judged⟩
  exact ⟨reply, listed, judged.vacant⟩

def removedBy (gone : String) (c : Circumstances) : Except Fault Json → Except Fault Unit
  | .ok _ => .ok ()
  | .error (.service f) =>
    if f.code = some gone then .ok () else .error ((Fault.service f).classify c)
  | .error f => .error f

theorem remove_answered (logger thing gone name operation : String) (c : Circumstances)
    (arguments : Fields) (asks : CloudCall.asks ⟨operation, arguments⟩ = true) (d : Desk) :
    (remove logger thing gone name c (request operation arguments)).Engages Desk.host d
      fun es r _ => ∃ reply, es = [.request ⟨⟨operation, arguments⟩, reply⟩] ∧
        r = removedBy gone c reply.result := by
  have noted {reply : CloudReply} {message : String} (d : Desk)
      (passed : removedBy gone c reply.result = .ok ()) :
      (note Log.info logger message).Engages Desk.host d fun es r _ => ∃ answered,
        [.request ⟨⟨operation, arguments⟩, reply⟩] ++ es =
          [.request ⟨⟨operation, arguments⟩, answered⟩] ∧ r = removedBy gone c answered.result := by
    refine (note_quiet _ _ _ _).mono ?_
    rintro es r d' ⟨rfl, -, rfl⟩
    exact ⟨reply, rfl, passed.symm⟩
  refine Act.engages_bind (Act.engages_attempt (request_engages asks fun reply d' => ?_))
  dsimp only
  split
  case h_1 v came => exact noted d' (by rw [came]; rfl)
  case h_2 f came =>
      split
      case isTrue unknown => exact noted d' (by simp only [came, removedBy, if_pos unknown])
      case isFalse other =>
          exact Act.engages_fail ⟨reply, rfl, by simp only [came, removedBy, if_neg other]⟩
  case h_3 f other came =>
      refine Act.engages_fail ⟨reply, rfl, ?_⟩
      rw [came]
      cases f with
      | service f => exact absurd rfl (other f)
      | _ => rfl

/-- The service has removed something, or it says that it does not know it. -/
def Removes (gone : String) (reply : CloudReply) : Prop :=
  reply.fault = none ∨ ∃ f, reply.fault = some (.service f) ∧ f.code = some gone

theorem removes_of_passed {gone : String} {c : Circumstances} {reply : CloudReply}
    (passed : removedBy gone c reply.result = .ok ()) : Removes gone reply := by
  cases came : reply.result with
  | ok v => exact .inl (CloudReply.result_eq_ok came).1
  | error f =>
      have fault := CloudReply.result_eq_error came
      rw [came] at passed
      cases f with
      | service f =>
          rw [removedBy] at passed
          split at passed
          case isTrue unknown => exact .inr ⟨f, fault, unknown⟩
          case isFalse => cases passed
      | _ => cases passed

theorem deleteCertificate_engages (name : String) (d : Desk) :
    (deleteCertificate name).Engages Desk.host d fun es r _ => ∃ reply,
      es = [.request ⟨⟨"iam.delete_server_certificate", [("ServerCertificateName", .str name)]⟩,
        reply⟩] ∧ (r = .ok () → Removes "NoSuchEntity" reply) :=
  (client_quiet _).engages_bind fun _ d' =>
    (remove_answered _ _ _ _ _ _ _ rfl d').mono fun _ _ _ ⟨reply, same, removed⟩ =>
      ⟨reply, same, fun passed => removes_of_passed (removed.symm.trans passed)⟩

theorem deleteKeyPair_engages (name : String) (d : Desk) :
    (deleteKeyPair name).Engages Desk.host d fun es _ _ => es = [] ∨ ∃ reply,
      es = [.request ⟨⟨"ec2.delete_key_pair", [("KeyName", .str name)]⟩, reply⟩] := by
  unfold deleteKeyPair
  split
  case isTrue =>
      refine (note_quiet _ _ _ _).mono ?_
      rintro es r d' ⟨rfl, -⟩
      exact .inl rfl
  case isFalse =>
      refine (client_quiet _).engages_bind fun _ d' => ?_
      refine (remove_answered _ _ _ _ _ _ _ rfl d').mono ?_
      rintro es r d'' ⟨reply, rfl, -⟩
      exact .inr ⟨reply, rfl⟩

def IsIdentityRequest (x : Contact) : Prop :=
  ∃ reply, x = .request ⟨⟨"sts.get_caller_identity", []⟩, reply⟩

theorem askIdentity_within : askIdentity.Within Desk.host IsIdentityRequest := by
  have asked : (request "sts.get_caller_identity" []).Within Desk.host IsIdentityRequest :=
    fun d => request_engages rfl fun reply d' => List.forall_mem_singleton.mpr ⟨reply, rfl⟩
  refine .bind (client_quiet _).within fun _ => .bind asked fun v => ?_
  refine .bind session_quiet.within fun s => .bind (Act.within_ofExcept _) fun identity => ?_
  refine .bind (remember_quiet _).within fun _ => ?_
  exact .bind (note_quiet _ _ _).within fun _ => Act.within_pure _

theorem verify_within : verify.Within Desk.host IsIdentityRequest := by
  intro d
  unfold Act.Engages verify
  split
  case h_1 => exact ⟨[], .quiet rfl rfl rfl, List.forall_mem_nil _⟩
  case h_2 =>
      refine Act.Within.bind askIdentity_within.attempt (fun r => ?_) d
      split
      · exact Act.within_pure _
      · dsimp only
        split
        · exact .bind (note_quiet _ _ _).within fun _ => Act.within_fail _
        · exact Act.within_fail _

end Desk
end Aws

theorem Credentials.checkAws_within (a : AwsAccount) :
    (checkAws a).Within id Aws.Desk.IsIdentityRequest := by
  refine .bind (Act.within_ofExcept _) fun _ => .bind ?_ fun identity => ?_
  · exact fun h => Aws.Desk.verify_within { host := h, manager := { keys := keysOf a } }
  · exact (Host.note_quiet _ _ _).within

end Dismantle
