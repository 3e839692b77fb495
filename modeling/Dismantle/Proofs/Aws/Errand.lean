import Dismantle.Proofs.Aws.Desk
/-! Errands: work that turns on what a service answers to one request. What an errand comes to when
that request fails. -/
namespace Dismantle

/-- The first request is answered with the first answer to come for its name. -/
theorem Cloud.replay_head {replies : List (String × List CloudReply)} {cs : List CloudCall}
    {q : Request} {qs : List Request} (h : (replay replies cs).1 = q :: qs) :
    q.reply = (take q.call.name replies).1 := by
  induction cs with
  | nil => cases h
  | cons c cs ih =>
      simp only [replay] at h
      split at h
      case isTrue =>
          obtain ⟨rfl, -⟩ := List.cons.inj h
          rfl
      case isFalse => exact ih h

theorem Host.Contacts.first_reply {h h' : Host} {q : Request} {es : List Contact}
    (w : h.Contacts (.request q :: es) h') :
    q.reply = (h.cloud.call q.call.name q.call.arguments).1 := by
  obtain ⟨calls, -, replayed⟩ := w.replayed
  exact Cloud.replay_head (congrArg Prod.fst replayed)

namespace Aws

/-- Work with a service that begins with one request about a resource. -/
inductive Errand where
  | describeStack (name : String)
  | deleteStack (patience : Desk.Patience) (name : String)
  | checkVpc (id : Json)
  | deleteCertificate (name : String)
  | deleteKeyPair (name : String)

namespace Errand

def perform : Errand → Act Desk Unit
  | .describeStack name => do let _ ← Desk.describeStack name
  | .deleteStack patience name => Desk.deleteStack patience name
  | .checkVpc id => Desk.checkVpc id
  | .deleteCertificate name => Desk.deleteCertificate name
  | .deleteKeyPair name => Desk.deleteKeyPair name

/-- There is something to ask for: a network or a key pair that is not recorded is left alone. -/
def Asks : Errand → Prop
  | .checkVpc id => id.counts = true
  | .deleteKeyPair name => name ≠ ""
  | _ => True

def call : Errand → CloudCall
  | .describeStack name => ⟨"cloudformation.describe_stacks", [("StackName", .str name)]⟩
  | .deleteStack _ name => ⟨"cloudformation.delete_stack", [("StackName", .str name)]⟩
  | .checkVpc id => ⟨"ec2.paginate.describe_instances", listArguments id⟩
  | .deleteCertificate name =>
    ⟨"iam.delete_server_certificate", [("ServerCertificateName", .str name)]⟩
  | .deleteKeyPair name => ⟨"ec2.delete_key_pair", [("KeyName", .str name)]⟩

def circumstances : Errand → Circumstances
  | .describeStack name => about "stack" name "cloudformation" "describe_stacks"
  | .deleteStack _ name => about "stack" name "cloudformation" "delete_stack"
  | .checkVpc id => about "vpc" id.display "ec2" "describe_instances"
  | .deleteCertificate name => about "server_certificate" name "iam" "delete_server_certificate"
  | .deleteKeyPair name => about "key_pair" name "ec2" "delete_key_pair"

/-- What an errand comes to when its request fails. -/
def outcome (e : Errand) : Fault → Except Fault Unit
  | .service f =>
    let report := (Fault.service f).classify e.circumstances
    match e with
    | .describeStack name => .error (if saysMissing f then .missingStack name else report)
    | .deleteCertificate _ => if f.code = some "NoSuchEntity" then .ok () else .error report
    | .deleteKeyPair _ => if f.code = some "InvalidKeyPair.NotFound" then .ok () else .error report
    | .deleteStack .. | .checkVpc _ => .error report
  | f => .error f

/-- The pages of a listing can be read as far as they go. -/
def Reads : Errand → CloudReply → Prop
  | .checkVpc _, reply => ∀ page ∈ reply.pages, ∃ names, foreignOnPage page = .ok names
  | _, _ => True

/-- The errand has begun with its request; if this has failed, it has come to its outcome. -/
def Begun (e : Errand) (es : List Contact) (r : Except Fault Unit) : Prop :=
  ∃ reply rest, es = .request ⟨e.call, reply⟩ :: rest ∧
    ∀ f, reply.fault = some f → e.Reads reply → r = e.outcome f

theorem begun_of_fault {e : Errand} {reply : CloudReply} {f : Fault} {r : Except Fault Unit}
    (fault : reply.fault = some f) (h : r = e.outcome f) :
    e.Begun [.request ⟨e.call, reply⟩] r := by
  refine ⟨reply, [], rfl, fun g failed _ => ?_⟩
  cases fault.symm.trans failed
  exact h

theorem begun_of_answer {e : Errand} {reply : CloudReply} (fault : reply.fault = none)
    (rest : List Contact) (r : Except Fault Unit) :
    e.Begun (.request ⟨e.call, reply⟩ :: rest) r :=
  ⟨reply, rest, rfl, fun _ failed => nomatch fault.symm.trans failed⟩

theorem describeStack_begun (name : String) (d : Desk) :
    (perform (.describeStack name)).Engages Desk.host d fun es r _ =>
      (describeStack name).Begun es r := by
  refine Act.engages_bind ((Desk.describeStack_answered name d).mono ?_)
  rintro es r d' ⟨reply, rfl, described⟩
  cases came : reply.result with
  | ok answer =>
      -- An answer that cannot be read fails the errand, but the request has not failed.
      have begun := begun_of_answer (e := describeStack name) (CloudReply.result_eq_ok came).1 []
      cases r with
      | ok stack => exact Act.engages_pure (begun _)
      | error f => exact begun _
  | error f =>
      have fault := CloudReply.result_eq_error came
      rw [came] at described
      cases f <;> subst described <;> exact begun_of_fault fault rfl

theorem deleteStack_begun (patience : Desk.Patience) (name : String) (d : Desk) :
    (perform (.deleteStack patience name)).Engages Desk.host d fun es r _ =>
      (deleteStack patience name).Begun es r := by
  refine (Desk.deleteStack_deleting patience name d).mono ?_
  rintro es r d' (@⟨reply, f, fault⟩ | @⟨reply, waited, _, accepted, -⟩)
  · refine begun_of_fault fault ?_
    cases f <;> rfl
  · exact begun_of_answer accepted _ _

/-- A listing whose pages can be read fails with the fault behind them. -/
theorem foreignInListing_of_fault {reply : CloudReply} {f : Fault} (fault : reply.fault = some f)
    (reads : ∀ page ∈ reply.pages, ∃ names, foreignOnPage page = .ok names) :
    foreignInListing reply = .error f := by
  choose! names read using reads
  rw [foreignInListing, Except.mapM_of_forall read, fault]
  rfl

theorem checkVpc_begun {id : Json} (known : id.counts = true) (d : Desk) :
    (perform (.checkVpc id)).Engages Desk.host d fun es r _ => (checkVpc id).Begun es r := by
  refine (Desk.checkVpc_judged id d).mono ?_
  rintro es r d' (⟨-, unknown⟩ | ⟨reply, rfl, judged⟩)
  · cases known.symm.trans unknown
  refine ⟨reply, [], rfl, fun f fault reads => ?_⟩
  have failed := foreignInListing_of_fault fault reads
  cases judged with
  | refused found =>
      cases failed.symm.trans found
      rfl
  | stopped found other =>
      cases failed.symm.trans found
      cases f with
      | service s => exact absurd rfl (other s)
      | _ => rfl
  | unoccupied found | occupied found => cases failed.symm.trans found

theorem begun_of_removed {e : Errand} {gone : String} {reply : CloudReply}
    (settles : ∀ f, e.outcome f = Desk.removedBy gone e.circumstances (.error f)) :
    e.Begun [.request ⟨e.call, reply⟩] (Desk.removedBy gone e.circumstances reply.result) := by
  cases came : reply.result with
  | ok v => exact begun_of_answer (CloudReply.result_eq_ok came).1 [] _
  | error f => exact begun_of_fault (CloudReply.result_eq_error came) (settles f).symm

theorem deleteCertificate_begun (name : String) (d : Desk) :
    (perform (.deleteCertificate name)).Engages Desk.host d fun es r _ =>
      (deleteCertificate name).Begun es r := by
  refine (Desk.client_quiet _).engages_bind fun _ d' => ?_
  refine (Desk.remove_answered _ _ _ _ _ _ _ rfl d').mono ?_
  rintro es _ _ ⟨reply, rfl, rfl⟩
  exact begun_of_removed fun f => by cases f <;> rfl

theorem deleteKeyPair_begun {name : String} (some_ : name ≠ "") (d : Desk) :
    (perform (.deleteKeyPair name)).Engages Desk.host d fun es r _ =>
      (deleteKeyPair name).Begun es r := by
  change (Desk.deleteKeyPair name).Engages Desk.host d _
  unfold Desk.deleteKeyPair
  rw [if_neg some_]
  refine (Desk.client_quiet _).engages_bind fun _ d' => ?_
  refine (Desk.remove_answered _ _ _ _ _ _ _ rfl d').mono ?_
  rintro es _ _ ⟨reply, rfl, rfl⟩
  exact begun_of_removed fun f => by cases f <;> rfl

theorem perform_begun {e : Errand} (asks : e.Asks) (d : Desk) :
    e.perform.Engages Desk.host d fun es r _ => e.Begun es r := by
  cases e with
  | describeStack name => exact describeStack_begun name d
  | deleteStack patience name => exact deleteStack_begun patience name d
  | checkVpc id => exact checkVpc_begun asks d
  | deleteCertificate name => exact deleteCertificate_begun name d
  | deleteKeyPair name => exact deleteKeyPair_begun asks d

def answer (e : Errand) (d : Desk) : CloudReply :=
  (d.host.cloud.call e.call.name e.call.arguments).1

/-- The request of an errand fails. Of a listing the pages before the fault can be read. -/
structure Fails (e : Errand) (d : Desk) (f : Fault) : Prop where
  asks : e.Asks
  fault : (e.answer d).fault = some f
  reads : e.Reads (e.answer d)

/-- An errand whose request fails comes to what this fault makes of it. -/
theorem perform_fails {e : Errand} {d : Desk} {f : Fault} (fails : e.Fails d f) :
    (e.perform d).1 = e.outcome f := by
  obtain ⟨es, contacts, reply, rest, rfl, begun⟩ := perform_begun fails.asks d
  have answered : reply = e.answer d := contacts.first_reply
  rw [answered] at begun
  exact begun f fails.fault fails.reads

end Errand
end Aws
end Dismantle
