import Dismantle.Proofs.Teardown.Episode
/-! No stack is deleted while its network holds instances that are not its own, and what outlives a
stack is deleted after it. -/
namespace Dismantle.Teardown

def describing (name : String) : CloudCall :=
  ⟨"cloudformation.describe_stacks", [("StackName", .str name)]⟩

/-- The stack with a name has been described, and its network is not known or has been found to
hold nothing but what the stack owns. -/
inductive Deletable (name : String) (earlier : List Request) : Prop where
  | unknown (d : Request) (stack : Json) : d ∈ earlier → d.call = describing name →
      Aws.Describes d.reply stack →
      (∀ id, Aws.networkOf stack = some id → id.counts = false) → Deletable name earlier
  | vacant (d l : Request) (stack id : Json) : d ∈ earlier → d.call = describing name →
      Aws.Describes d.reply stack → Aws.networkOf stack = some id →
      l ∈ earlier → l.call = ⟨"ec2.paginate.describe_instances", Aws.listArguments id⟩ →
      Aws.Vacant l.reply → Deletable name earlier

/-- There is no stack to delete, or its deletion has ended and has been saved. -/
inductive StackSettled (start : Environment) (before : List (Episode Site)) : Prop where
  | unnamed : start.stack.name = "" → StackSettled start before
  | missing (d : Request) : d ∈ before.flatMap (·.requests) → d.call = describing start.stack.name →
      Aws.ReportsMissing d.reply → StackSettled start before
  | deleted (first rest : List (Episode Site)) (deletion checkpoint : Episode Site)
      (q w : Request) (e : Environment) :
      before = first ++ deletion :: checkpoint :: rest →
      q ∈ deletion.requests →
      q.call = ⟨"cloudformation.delete_stack", [("StackName", .str start.stack.name)]⟩ →
      q.reply.fault = none → w ∈ deletion.requests →
      w.call = ⟨"cloudformation.wait.stack_delete_complete",
        Aws.Desk.waitArguments start.stack.name {}⟩ → w.reply.fault = none →
      checkpoint.exchange = ⟨.save e, .ok ()⟩ → e.stack.name = "" → StackSettled start before

/-- There is no certificate to delete, or its deletion has ended and has been saved. -/
inductive CertificateSettled (start : Environment) (before : List (Episode Site)) : Prop where
  | unnamed : start.stack.certificateName = "" → CertificateSettled start before
  | deleted (first rest : List (Episode Site)) (deletion checkpoint : Episode Site)
      (q : Request) (e : Environment) :
      before = first ++ deletion :: checkpoint :: rest →
      q ∈ deletion.requests →
      q.call = ⟨"iam.delete_server_certificate",
        [("ServerCertificateName", .str start.stack.certificateName)]⟩ →
      Aws.Desk.Removes "NoSuchEntity" q.reply → checkpoint.exchange = ⟨.save e, .ok ()⟩ →
      e.stack.certificateName = "" → CertificateSettled start before

/-- Requests that delete come behind what makes them safe. -/
structure StackSafe (start : Environment) (xs : List (Episode Site)) : Prop where
  stack : ∀ before x after, xs = before ++ x :: after → ∀ q ∈ x.requests,
    q.call.name = "cloudformation.delete_stack" →
      q.call.arguments = ([("StackName", .str start.stack.name)] : Fields) ∧
        Deletable start.stack.name (before.flatMap (·.requests))
  certificate : ∀ before x after, xs = before ++ x :: after → ∀ q ∈ x.requests,
    q.call.name = "iam.delete_server_certificate" → StackSettled start before
  keyPair : ∀ before x after, xs = before ++ x :: after → ∀ q ∈ x.requests,
    q.call.name = "ec2.delete_key_pair" →
      StackSettled start before ∧ CertificateSettled start before

theorem Call.deleting {c : Call} {r : CloudCall} (member : r ∈ c.requests) :
    (r.name = "cloudformation.delete_stack" →
      ∃ name, c = .deleteStack name ∧ r.arguments = ([("StackName", .str name)] : Fields)) ∧
    (r.name = "iam.delete_server_certificate" → ∃ name, c = .deleteCertificate name) ∧
    (r.name = "ec2.delete_key_pair" → ∃ name, c = .deleteAwsKeyPair name) := by
  cases c with
  | deleteStack name =>
      rcases List.mem_cons.mp member with rfl | member
      · exact ⟨fun _ => ⟨name, rfl, rfl⟩, by simp, by simp⟩
      · cases List.mem_singleton.mp member
        simp
  | deleteCertificate name =>
      cases List.mem_singleton.mp member
      simp
  | deleteAwsKeyPair name =>
      cases List.mem_singleton.mp member
      simp
  | validateAws | describeStack | checkVpc =>
      cases List.mem_singleton.mp member
      simp
  | _ => cases member

section
variable {start : Environment} {before : List (Episode Site)} {name : String}

theorem describing_mem (answered : ∀ y ∈ before, y.Answered)
    {answer : Except Fault StackDescription}
    (described : ⟨.describeStack name, answer⟩ ∈ before.map (·.exchange)) :
    ∃ d ∈ before.flatMap (·.requests), d.call = describing name ∧
      (∀ stack, answer = .ok stack → ∃ described, Aws.Describes d.reply described ∧
        stack.vpcId = (Aws.networkOf described).getD (.str "")) ∧
      ∀ other, answer = .error (.missingStack other) →
        Aws.ReportsMissing d.reply ∨ d.reply.fault = some (.missingStack other) := by
  obtain ⟨es, ⟨reply, rfl, told⟩, requests, -⟩ := Episode.contacts_of_mem answered described
    fun s tags now => Site.onDesk_engages (Aws.Desk.describeStack_engages name) tags now
  exact ⟨⟨describing name, reply⟩, requests _ List.mem_cons_self, rfl, told⟩

theorem deletable_of_checked (answered : ∀ y ∈ before, y.Answered) {stack : StackDescription}
    (described : ⟨.describeStack name, .ok stack⟩ ∈ before.map (·.exchange))
    (checked : ⟨.checkVpc stack.vpcId, .ok ()⟩ ∈ before.map (·.exchange)) :
    Deletable name (before.flatMap (·.requests)) := by
  obtain ⟨d, member, call, told, -⟩ := describing_mem answered described
  obtain ⟨json, describes, vpc⟩ := told stack rfl
  obtain ⟨es, passed, requests, -⟩ := Episode.contacts_of_mem answered checked
    fun s tags now => Site.onDesk_engages (Aws.Desk.checkVpc_engages stack.vpcId) tags now
  cases network : Aws.networkOf json with
  | none => exact .unknown d json member call describes (by rw [network]; exact nofun)
  | some id =>
      rw [network, Option.getD_some] at vpc
      rw [vpc] at passed
      rcases passed with ⟨-, empty⟩ | ⟨reply, rfl, vacant⟩
      · refine .unknown d json member call describes fun id' same => ?_
        cases network.symm.trans same
        exact empty
      · have listed := requests _ List.mem_cons_self
        exact .vacant d _ json id member call describes network listed rfl (vacant rfl)

/-- Two calls in a row are two episodes in a row. -/
theorem consecutive {first rest : List Exchange} {x y : Exchange}
    (same : before.map (·.exchange) = first ++ x :: y :: rest) :
    ∃ first rest d k, before = first ++ d :: k :: rest ∧ d.exchange = x ∧ k.exchange = y := by
  obtain ⟨front, back, rfl, -, tail⟩ := List.map_eq_append_iff.mp same
  obtain ⟨d, back, rfl, hd, tail⟩ := List.map_eq_cons_iff.mp tail
  obtain ⟨k, back, rfl, hk, -⟩ := List.map_eq_cons_iff.mp tail
  exact ⟨front, back, d, k, rfl, hd, hk⟩

theorem StackDone.settled (done : StackDone start (before.map (·.exchange)))
    (answered : ∀ y ∈ before, y.Answered)
    (foreign : ∀ q ∈ before.flatMap (·.requests), ∀ other,
      q.reply.fault ≠ some (.missingStack other)) : StackSettled start before := by
  generalize same : before.map (·.exchange) = past at done
  cases done with
  | unnamed none => exact .unnamed none
  | missing other member =>
      rw [← same] at member
      obtain ⟨d, member, call, -, told⟩ := describing_mem answered member
      rcases told other rfl with missing | fault
      · exact .missing d member call missing
      · exact absurd fault (foreign d member other)
  | deleted first rest e none =>
      obtain ⟨first, rest, ⟨site, exchange, site'⟩, checkpoint, rfl, rfl, saved⟩ := consecutive same
      obtain ⟨es, requests, -, reply, ends⟩ :=
        (answered _ (List.mem_append_right first List.mem_cons_self)).contacts fun s tags now =>
          Site.onDesk_engages (Aws.Desk.deleteStack_engages {} start.stack.name) tags now
      rcases ends with ⟨-, failed⟩ | ⟨waited, rfl, succeeded⟩
      · exact absurd rfl failed
      · obtain ⟨accepted, ended⟩ := succeeded rfl
        refine .deleted first rest _ checkpoint ⟨⟨_, _⟩, reply⟩ ⟨⟨_, _⟩, waited⟩ e rfl ?_ rfl accepted
          ?_ rfl ended saved none
        · rw [requests]
          exact List.mem_cons_self
        · rw [requests]
          exact List.mem_cons_of_mem _ List.mem_cons_self

theorem CertificateDone.settled (done : CertificateDone start (before.map (·.exchange)))
    (answered : ∀ y ∈ before, y.Answered) : CertificateSettled start before := by
  generalize same : before.map (·.exchange) = past at done
  cases done with
  | unnamed none => exact .unnamed none
  | deleted first rest e none =>
      obtain ⟨first, rest, ⟨site, exchange, site'⟩, checkpoint, rfl, rfl, saved⟩ := consecutive same
      obtain ⟨es, requests, -, reply, rfl, removes⟩ :=
        (answered _ (List.mem_append_right first List.mem_cons_self)).contacts fun s tags now =>
          Site.onDesk_engages (Aws.Desk.deleteCertificate_engages _) tags now
      refine .deleted first rest _ checkpoint ⟨⟨_, _⟩, reply⟩ e rfl ?_ rfl (removes rfl) saved none
      rw [requests]
      exact List.mem_cons_self

end

/-- Episodes that come behind what they wait for are safe. -/
theorem Ordered.stackSafe {start : Environment} {xs : List (Episode Site)}
    (ordered : Ordered start [] (xs.map (·.exchange))) (answered : ∀ x ∈ xs, x.Answered)
    (foreign : ∀ q ∈ xs.flatMap (·.requests), ∀ other,
      q.reply.fault ≠ some (.missingStack other)) : StackSafe start xs := by
  have foreignBefore {before after : List (Episode Site)} {x : Episode Site}
      (split : xs = before ++ x :: after) :
      ∀ q ∈ before.flatMap (·.requests), ∀ other, q.reply.fault ≠ some (.missingStack other) := by
    intro q member
    rw [split, List.flatMap_append] at foreign
    exact foreign q (List.mem_append_left _ member)
  refine ⟨?_, ?_, ?_⟩
  · intro before x after split q member deletes
    obtain ⟨here, earlier⟩ := Episode.answered_cut answered split
    obtain ⟨name, call, arguments⟩ := (Call.deleting (here.request_mem member)).1 deletes
    have behind := ordered.episode split
    rw [call] at behind
    obtain ⟨rfl, stack, described, checked⟩ := behind
    exact ⟨arguments, deletable_of_checked earlier described checked⟩
  · intro before x after split q member deletes
    obtain ⟨here, earlier⟩ := Episode.answered_cut answered split
    obtain ⟨name, call⟩ := (Call.deleting (here.request_mem member)).2.1 deletes
    have behind := ordered.episode split
    rw [call] at behind
    exact behind.settled earlier (foreignBefore split)
  · intro before x after split q member deletes
    obtain ⟨here, earlier⟩ := Episode.answered_cut answered split
    obtain ⟨name, call⟩ := (Call.deleting (here.request_mem member)).2.2 deletes
    have behind := ordered.episode split
    rw [call] at behind
    exact ⟨behind.1.settled earlier (foreignBefore split), behind.2.settled earlier⟩

/-- Whatever a service answers, a run's requests are those of its episodes, and none of them deletes
a stack, its certificate or its key pair before that is safe. -/
theorem run_stackSafe (s : Site) (foreign : s.host.cloud.IsForeign)
    (supported : List Provider) (arguments : List String) (p : Progress) :
    let episodes := (run supported arguments p).episodes Site.handler s
    s.host.requests ((run supported arguments p).perform Site.handler s).2.host =
        episodes.flatMap (·.requests) ∧
      StackSafe p.env episodes := by
  intro episodes
  obtain ⟨es, contacts, same, -⟩ := perform_contacts (run supported arguments p) s
  have requests : s.host.requests ((run supported arguments p).perform Site.handler s).2.host =
      episodes.flatMap (·.requests) := contacts.requests.trans same
  have ordered := run_ordered Site.handler s supported arguments p
  rw [← Program.episodes_history] at ordered
  refine ⟨requests, ordered.stackSafe (fun x => Program.episodes_answered) ?_⟩
  intro q member other
  rw [← requests] at member
  exact foreign.gives (Cloud.replay_gives member) other

def stacked : Environment := { stack := { name := "stack" } }

/-- The stack's network holds the stack's own gateway. -/
def gatewayCloud : Cloud := { replies := [
  ("cloudformation.describe_stacks", [{ value := .obj [("Stacks", .arr [.obj [
    ("StackName", .str "stack"),
    ("Outputs", .arr [.obj [("OutputKey", .str "VPCID"), ("OutputValue", .str "vpc")]])]])] }]),
  ("ec2.paginate.describe_instances", [{ pages := [.obj [("Reservations", .arr [.obj [
    ("Instances", .arr [.obj [("Tags", .arr [
      .obj [("Key", .str "Name"), ("Value", .str "NAT")]])]])]])]] }])] }

/-- A site where the record is on file and all tools are in order. -/
def gatewaySite : Site :=
  .of {} stacked ⟨⟨true, []⟩⟩ 80 {
    files := ⟨[(["envteardown-state.json"], .file (.text ""))]⟩
    replies := [{ ending := .exited 0 "Terraform v0.8.7" "" }]
    cloud := gatewayCloud }

theorem gatewayCloud_isForeign : gatewayCloud.IsForeign := by
  intro name rs member r among stack
  simp only [gatewayCloud, List.mem_cons, Prod.mk.injEq, List.not_mem_nil, or_false] at member
  rcases member with ⟨-, rfl⟩ | ⟨-, rfl⟩
  all_goals
    cases List.mem_singleton.mp among
    exact nofun

theorem run_stackSafe_gateway :
    gatewaySite.host.cloud.IsForeign ∧
      (∃ q ∈ ((run Provider.all ["-n"] { env := stacked }).episodes Site.handler gatewaySite).flatMap
        (·.requests), q.call.name = "cloudformation.delete_stack") ∧
      StackSafe stacked
        ((run Provider.all ["-n"] { env := stacked }).episodes Site.handler gatewaySite) :=
  ⟨gatewayCloud_isForeign, by decide +kernel,
    (run_stackSafe gatewaySite gatewayCloud_isForeign Provider.all ["-n"] { env := stacked }).2⟩

end Dismantle.Teardown
