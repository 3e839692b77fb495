import Dismantle.Proofs.Aws.Desk
import Dismantle.Proofs.Bosh.Tool
import Dismantle.Proofs.Gcloud.Network
import Dismantle.Proofs.Terraform.Destruction
import Dismantle.Proofs.Teardown.Sequence
import Dismantle.Teardown.Site
/-! Episodes: calls as they are carried out at a site, each with the contacts that it makes. -/
namespace Dismantle.Teardown

/-- A call that has been carried out, with the states before and after it. -/
structure Episode (σ : Type) where
  before : σ
  exchange : Exchange
  after : σ

namespace Program
variable {α σ : Type}

/-- The calls that carrying a program out makes, in order. -/
def episodes (h : Handler σ) : Program α → σ → List (Episode σ)
  | .done _, _ => []
  | .log r next, s => next.episodes h (h.log r s)
  | .call tags c next, s =>
    let (answer, after) := h.answer tags c s
    ⟨s, ⟨c, answer⟩, after⟩ :: (next answer).episodes h after

theorem episodes_history (h : Handler σ) (p : Program α) (s : σ) :
    (p.episodes h s).map (·.exchange) = p.history h s := by
  induction p generalizing s with
  | done a => rfl
  | log r next ih => exact ih (h.log r s)
  | call tags c next ih => exact congrArg (_ :: ·) (ih _ _)

theorem episodes_answered {h : Handler σ} {p : Program α} {s : σ} {x : Episode σ}
    (member : x ∈ p.episodes h s) :
    ∃ tags, h.answer tags x.exchange.call x.before = (x.exchange.answer, x.after) := by
  induction p generalizing s with
  | done a => cases member
  | log r next ih => exact ih member
  | call tags c next ih =>
      rcases List.mem_cons.mp member with rfl | member
      · exact ⟨tags, rfl⟩
      · exact ih _ member

end Program

def Site.host (s : Site) : Host := s.desk.host

namespace Episode

def requests (x : Episode Site) : List Request := x.before.host.requests x.after.host

def launches (x : Episode Site) : List Launch := x.before.host.launches x.after.host

def Answered [Limits] (x : Episode Site) : Prop :=
  ∃ tags, Site.handler.answer tags x.exchange.call x.before = (x.exchange.answer, x.after)

end Episode

def Call.requests : Call → List CloudCall
  | .validateAws _ => [⟨"sts.get_caller_identity", []⟩]
  | .describeStack name => [⟨"cloudformation.describe_stacks", [("StackName", .str name)]⟩]
  | .checkVpc id => [⟨"ec2.paginate.describe_instances", Aws.listArguments id⟩]
  | .deleteStack name => [
    ⟨"cloudformation.delete_stack", [("StackName", .str name)]⟩,
    ⟨"cloudformation.wait.stack_delete_complete", Aws.Desk.waitArguments name {}⟩]
  | .deleteCertificate name =>
    [⟨"iam.delete_server_certificate", [("ServerCertificateName", .str name)]⟩]
  | .deleteAwsKeyPair name => [⟨"ec2.delete_key_pair", [("KeyName", .str name)]⟩]
  | _ => []

def Call.commands : Call → List (List String)
  | .terraformVersion => [["version"]]
  | .deleteDirector _ => [["delete-env"]]
  | .terraformOutputs _ => [Terraform.outputCommand]
  | .checkNetwork _ => [Gcloud.listCommand]
  | .terraformDestroy _ => [["init"], ["destroy"]]
  | .deleteGcpKeyPair _ => [["compute", "project-info"]]
  | _ => []

def Call.Allows (c : Call) : Contact → Prop
  | .request q => q.call ∈ c.requests
  | .launch l => ∃ command ∈ c.commands, l.Runs command

namespace Site
variable {α : Type} {Q : List Contact → Except Fault α → Prop}

theorem onDesk_engages {act : Act Aws.Desk α}
    (h : ∀ d, act.Engages Aws.Desk.host d fun es r _ => Q es r) (tags : Log.Tags) (s : Site) :
    (onDesk tags act).Engages host s fun es r _ => Q es r := by
  obtain ⟨es, contacts, q⟩ := h { s.desk with host := { s.desk.host with
    journal := { s.desk.host.journal with tags } } }
  exact ⟨es, contacts.framed rfl rfl rfl rfl rfl rfl, q⟩

theorem onHost_engages {act : Act Host α}
    (h : ∀ d, act.Engages id d fun es r _ => Q es r) (tags : Log.Tags) (s : Site) :
    (onHost tags act).Engages host s fun es r _ => Q es r := by
  have atDesk : ∀ d, (Aws.Desk.onHost act).Engages Aws.Desk.host d fun es r _ => Q es r :=
    fun d => h d.host
  exact onDesk_engages atDesk tags s

end Site

section
variable {C : Contact → Prop}

theorem print_within (limit : Nat) (ending markup : String) :
    (Console.print limit ending markup).Within id C :=
  .bind (Act.within_ofExcept _) fun _ => (Host.show_quiet _).within

theorem ask_within (limit : Nat) (message : String) : (Console.ask limit message).Within id C :=
  .bind (print_within _ _ _) fun _ => Host.readLine_within

theorem validate_within (store : Store) (e : Environment) : (store.validate e).Within id C := by
  intro h
  unfold Act.Engages Store.validate
  split
  case isTrue => exact ⟨[], .quiet rfl rfl rfl, List.forall_mem_nil _⟩
  case isFalse => split <;> exact ⟨[], .quiet rfl rfl rfl, List.forall_mem_nil _⟩

theorem Store.remove_within (store : Store) : store.remove.Within id C := by
  intro h
  unfold Act.Engages Store.remove
  split
  · exact Act.Within.bind (Host.change_within _ _) (fun _ => (Host.note_quiet _ _ _).within) h
  · exact ⟨[], .quiet rfl rfl rfl, List.forall_mem_nil _⟩

theorem Store.save_within [Limits] (store : Store) (e : Environment) : (store.save e).Within id C := by
  unfold Store.save
  split
  · exact Store.remove_within store
  · refine .bind (Host.makeDirectories_within _) fun _ => .bind (Host.change_within _ _) fun _ => ?_
    refine .bind (Act.within_ofExcept _) fun _ => .bind (Host.change_within _ _) fun _ => ?_
    exact (Host.note_quiet _ _ _).within

theorem checkGcp_within (g : GcpAccount) : (Credentials.checkGcp g).Within id C := by
  refine .bind (Act.within_ofExcept _) fun _ => .bind (Act.within_ofExcept _) fun fs => ?_
  exact (Host.note_quiet _ _ _).within

end

section
variable [Limits]

/-- What a site makes of deleting a director starts nothing but the program for that. -/
theorem Site.deleteDirector_within (s : Site) (e : Environment) :
    (s.deleteDirector e).Within id Bosh.IsDirectorWork := by
  refine .bind (s.bosh.delete_within e).attempt fun r => ?_
  split
  · split
    · exact Act.within_fail _
    · exact .bind (Host.note_quiet _ _ _).within fun _ => Act.within_fail _
  · exact Act.within_ofExcept _

theorem Site.save_within {C : Contact → Prop} (s : Site) (e : Environment) : (s.save e).Within id C :=
  .bind (Act.within_ofExcept _) fun e => Store.save_within s.store e

theorem reply_engages (s : Site) (tags : Log.Tags) (c : Call) (now : Site) :
    (Site.reply s tags c).Engages Site.host now fun es _ _ => ∀ x ∈ es, c.Allows x := by
  cases c with
  | validateRecord e => exact Site.onHost_engages (validate_within s.store e) tags now
  | save e => exact Site.onHost_engages (s.save_within e) tags now
  | prompt text => exact Site.onHost_engages (ask_within _ _) tags now
  | step text => exact Site.onHost_engages (print_within _ _ _) tags now
  | note text => exact Site.onHost_engages (print_within _ _ _) tags now
  | validateGcp g => exact Site.onHost_engages (checkGcp_within g) tags now
  | validateAws a =>
      refine Site.onHost_engages (fun h => (Credentials.checkAws_within a h).mono ?_) tags now
      intro es r h' inside x member
      obtain ⟨reply, rfl⟩ := inside x member
      exact List.mem_singleton.mpr rfl
  | terraformVersion =>
      refine Site.onHost_engages (fun h => (s.terraform.version_within h).mono ?_) tags now
      intro es r h' inside x member
      obtain ⟨l, rfl, runs⟩ := inside x member
      exact ⟨_, List.mem_singleton.mpr rfl, runs⟩
  | deleteDirector e =>
      refine Site.onHost_engages (fun h => (s.deleteDirector_within e h).mono ?_) tags now
      intro es r h' inside x member
      obtain ⟨l, rfl, runs⟩ := inside x member
      exact ⟨_, List.mem_singleton.mpr rfl, runs⟩
  | describeStack name =>
      refine Site.onDesk_engages (fun d => (Aws.Desk.describeStack_engages name d).mono ?_) tags now
      rintro es r d' ⟨reply, rfl, -⟩
      exact List.forall_mem_singleton.mpr (List.mem_singleton.mpr rfl)
  | checkVpc id =>
      refine Site.onDesk_engages (fun d => (Aws.Desk.checkVpc_engages id d).mono ?_) tags now
      rintro es r d' (⟨rfl, -⟩ | ⟨reply, rfl, -⟩)
      · exact List.forall_mem_nil _
      · exact List.forall_mem_singleton.mpr (List.mem_singleton.mpr rfl)
  | deleteStack name =>
      refine Site.onDesk_engages (fun d => (Aws.Desk.deleteStack_engages {} name d).mono ?_) tags now
      rintro es r d' ⟨reply, ⟨rfl, -⟩ | ⟨waited, rfl, -⟩⟩
      · exact List.forall_mem_singleton.mpr List.mem_cons_self
      · refine List.forall_mem_cons.mpr ⟨List.mem_cons_self, List.forall_mem_singleton.mpr ?_⟩
        exact List.mem_cons_of_mem _ List.mem_cons_self
  | deleteCertificate name =>
      refine Site.onDesk_engages (fun d => (Aws.Desk.deleteCertificate_engages name d).mono ?_)
        tags now
      rintro es r d' ⟨reply, rfl, -⟩
      exact List.forall_mem_singleton.mpr (List.mem_singleton.mpr rfl)
  | deleteAwsKeyPair name =>
      refine Site.onDesk_engages (fun d => (Aws.Desk.deleteKeyPair_engages name d).mono ?_) tags now
      rintro es r d' (rfl | ⟨reply, rfl⟩)
      · exact List.forall_mem_nil _
      · exact List.forall_mem_singleton.mpr (List.mem_singleton.mpr rfl)
  | terraformOutputs e =>
      refine Site.onHost_engages
        (fun h => (s.terraform.environmentOutputs_engages e.tfState h).mono ?_) tags now
      rintro es r h' (⟨rfl, -⟩ | ⟨l, rfl, runs, -⟩)
      · exact List.forall_mem_nil _
      · exact List.forall_mem_singleton.mpr ⟨_, List.mem_singleton.mpr rfl, runs⟩
  | checkNetwork name =>
      refine Site.onHost_engages
        (fun h => (Gcloud.checkNetwork_engages s.gcloud name h).mono ?_) tags now
      rintro es r h' (⟨rfl, -⟩ | ⟨l, rfl, runs, -⟩)
      · exact List.forall_mem_nil _
      · exact List.forall_mem_singleton.mpr ⟨_, List.mem_singleton.mpr rfl, runs⟩
  | terraformDestroy d =>
      refine Site.onHost_engages (fun h => (s.terraform.destroy_engages d h).mono ?_) tags now
      intro es r h' destroys x member
      obtain ⟨l, rfl, runs | runs⟩ := destroys.only x member
      · exact ⟨_, List.mem_cons_self, runs⟩
      · exact ⟨_, List.mem_cons_of_mem _ List.mem_cons_self, runs⟩
  | deleteGcpKeyPair key =>
      refine Site.onHost_engages (fun h => (Gcloud.deleteKey_within s.gcloud key h).mono ?_) tags now
      intro es r h' inside x member
      obtain ⟨l, rfl, runs⟩ := inside x member
      exact ⟨_, List.mem_singleton.mpr rfl, runs⟩

namespace Episode

/-- What work on a call ensures shows in an episode of it. -/
theorem Answered.contacts {x : Episode Site} (answered : x.Answered)
    {Q : List Contact → Except Fault x.exchange.call.Answer → Prop}
    (h : ∀ s tags now,
      (Site.reply s tags x.exchange.call).Engages Site.host now fun es r _ => Q es r) :
    ∃ es, x.requests = es.filterMap Contact.request? ∧ x.launches = es.filterMap Contact.launch? ∧
      Q es x.exchange.answer := by
  obtain ⟨tags, same⟩ := answered
  obtain ⟨es, contacts, q⟩ := h x.before tags x.before
  have given : (Site.reply x.before tags x.exchange.call x.before).1 = x.exchange.answer :=
    congrArg Prod.fst same
  have left : (Site.reply x.before tags x.exchange.call x.before).2 = x.after :=
    congrArg Prod.snd same
  rw [given] at q
  rw [left] at contacts
  exact ⟨es, contacts.requests, contacts.launches, q⟩

theorem Answered.request_mem {x : Episode Site} (answered : x.Answered) {q : Request}
    (member : q ∈ x.requests) : q.call ∈ x.exchange.call.requests := by
  obtain ⟨es, requests, -, allowed⟩ := answered.contacts fun s tags => reply_engages s tags _
  rw [requests] at member
  obtain ⟨contact, among, same⟩ := List.mem_filterMap.mp member
  cases contact with
  | request q' =>
      cases same
      exact allowed _ among
  | launch l => cases same

theorem Answered.launch_runs {x : Episode Site} (answered : x.Answered) {l : Launch}
    (member : l ∈ x.launches) : ∃ command ∈ x.exchange.call.commands, l.Runs command := by
  obtain ⟨es, -, launches, allowed⟩ := answered.contacts fun s tags => reply_engages s tags _
  rw [launches] at member
  obtain ⟨contact, among, same⟩ := List.mem_filterMap.mp member
  cases contact with
  | request q => cases same
  | launch l' =>
      cases same
      exact allowed _ among

/-- What work on a call ensures shows among all that was done, if the call is one of those made. -/
theorem contacts_of_mem {xs : List (Episode Site)} (answered : ∀ y ∈ xs, y.Answered) {c : Call}
    {answer : Except Fault c.Answer} (made : ⟨c, answer⟩ ∈ xs.map (·.exchange))
    {Q : List Contact → Except Fault c.Answer → Prop}
    (h : ∀ s tags now, (Site.reply s tags c).Engages Site.host now fun es r _ => Q es r) :
    ∃ es, Q es answer ∧ (∀ q, .request q ∈ es → q ∈ xs.flatMap (·.requests)) ∧
      ∀ l, .launch l ∈ es → l ∈ xs.flatMap (·.launches) := by
  obtain ⟨⟨site, exchange, site'⟩, member, rfl⟩ := List.mem_map.mp made
  obtain ⟨es, requests, launches, q⟩ := (answered _ member).contacts h
  refine ⟨es, q, fun q among => ?_, fun l among => ?_⟩
  · refine List.mem_flatMap.mpr ⟨_, member, ?_⟩
    rw [requests]
    exact List.mem_filterMap.mpr ⟨_, among, rfl⟩
  · refine List.mem_flatMap.mpr ⟨_, member, ?_⟩
    rw [launches]
    exact List.mem_filterMap.mpr ⟨_, among, rfl⟩

theorem answered_cut {xs before after : List (Episode Site)} {x : Episode Site}
    (answered : ∀ y ∈ xs, y.Answered) (split : xs = before ++ x :: after) :
    x.Answered ∧ ∀ y ∈ before, y.Answered := by
  subst split
  have member : x ∈ before ++ x :: after := List.mem_append_right before List.mem_cons_self
  exact ⟨answered x member, fun y earlier => answered y (List.mem_append_left _ earlier)⟩

end Episode

omit [Limits] in
/-- Where a sequence of episodes is cut, the call there comes behind what it waits for. -/
theorem Ordered.episode {start : Environment} {xs before after : List (Episode Site)}
    {x : Episode Site} (ordered : Ordered start [] (xs.map (·.exchange)))
    (split : xs = before ++ x :: after) :
    x.exchange.call.Behind start (before.map (·.exchange)) := by
  rw [split, List.map_append, List.map_cons] at ordered
  exact ordered.behind rfl

theorem perform_contacts {α : Type} (p : Program α) (s : Site) :
    ∃ es, s.host.Contacts es (p.perform Site.handler s).2.host ∧
      es.filterMap Contact.request? = (p.episodes Site.handler s).flatMap (·.requests) ∧
      es.filterMap Contact.launch? = (p.episodes Site.handler s).flatMap (·.launches) := by
  induction p generalizing s with
  | done a => exact ⟨[], .quiet rfl rfl rfl, rfl, rfl⟩
  | log r next ih =>
      obtain ⟨es, contacts, same⟩ := ih (Site.handler.log r s)
      exact ⟨es, contacts.framed rfl rfl rfl rfl rfl rfl, same⟩
  | call tags c next ih =>
      let answered := Site.handler.answer tags c s
      obtain ⟨es, contacts, -⟩ := reply_engages s tags c s
      obtain ⟨es', contacts', requests, launches⟩ := ih answered.1 answered.2
      refine ⟨es ++ es', contacts.append contacts', ?_, ?_⟩
      · rw [List.filterMap_append, requests, ← contacts.requests]
        rfl
      · rw [List.filterMap_append, launches, ← contacts.launches]
        rfl

end

end Dismantle.Teardown
