import Dismantle.Proofs.Aws.Sessions
import Dismantle.Proofs.Teardown.Episode
import Dismantle.Proofs.Teardown.Offline
import Dismantle.Proofs.Teardown.Validation
/-! The sessions of a run. What is deleted is deleted in a session that is opened as the one was in
which the account's credentials have been checked. -/
namespace Dismantle.Teardown
open Aws (Errand Manager Desk)
open Credentials (AllGiven checkAws Told)

/-- Where all credentials are recorded, a profile makes no difference. -/
theorem Site.of_arguments {e : Environment} (given : AllGiven e.aws) (s : Settings) (store : Store)
    (width : Nat) (h : Host) :
    (Site.of s e store width h).desk.manager.keys.arguments = e.aws.arguments := by
  have twice {text : String} (some_ : text ≠ "") :
      Aws.present? (Aws.present? (some text)) = some text := by
    rw [Aws.present?_some some_, Aws.present?_some some_]
  exact Aws.Keys.arguments_of_present (twice given.1) (twice given.2.1) (twice given.2.2)

/-- Errands that go out from a site open one session, with the account's credentials. -/
theorem Site.errands_sessions {e : Environment} (given : AllGiven e.aws) (s : Settings)
    (store : Store) (width : Nat) (h : Host) (errands : List Errand) :
    h.sessions (Errand.performAll errands (Site.of s e store width h).desk).host =
      if ∃ x ∈ errands, x.Asks then [e.aws.arguments] else [] := by
  rw [← Site.of_arguments given s store width h]
  exact Errand.performAll_sessions errands h _

def Call.errand? : Call → Option Errand
  | .describeStack name => some (.describeStack name)
  | .checkVpc id => some (.checkVpc id)
  | .deleteStack name => some (.deleteStack {} name)
  | .deleteCertificate name => some (.deleteCertificate name)
  | .deleteAwsKeyPair name => some (.deleteKeyPair name)
  | _ => none

theorem Call.touches_of_errand {c : Call} {e : Errand} (h : c.errand? = some e) :
    c.touches = true := by
  cases c <;> first | rfl | cases h

theorem Call.online_cases {c : Call} (online : c.isOnline = true) :
    (∃ a, c = .validateAws a) ∨ ∃ e, c.errand? = some e := by
  cases c with
  | validateAws a => exact .inl ⟨a, rfl⟩
  | describeStack | checkVpc | deleteStack | deleteCertificate | deleteAwsKeyPair =>
      exact .inr ⟨_, rfl⟩
  | _ => cases online

namespace Site
variable {α β : Type}

theorem onDesk_comes (act : Act Desk α) {P : Except Fault α → Manager → List CloudCall → Prop}
    (tags : Log.Tags) (s : Site)
    (h : ∀ d : Desk, d.manager = s.desk.manager → Desk.Comes act d P) :
    ∃ calls, (onDesk tags act s).2.host.cloud.calls = s.host.cloud.calls ++ calls ∧
      P (onDesk tags act s).1 (onDesk tags act s).2.desk.manager calls :=
  h _ rfl

theorem onDesk_after {act : Act Desk α} {act' : Act Desk β} (same : ∀ d, (act d).2 = (act' d).2)
    (tags : Log.Tags) (s : Site) : (onDesk tags act s).2 = (onDesk tags act' s).2 := by
  simp only [onDesk, same]

theorem reply_errand {c : Call} {e : Errand} (h : c.errand? = some e) (s : Site) (tags : Log.Tags)
    (now : Site) : (s.reply tags c now).2 = (onDesk tags e.perform now).2 := by
  cases c with
  | describeStack name =>
      cases h
      refine onDesk_after (fun d => ?_) tags now
      change _ = ((Desk.describeStack name >>= fun _ => pure ()) d).2
      rw [Act.bind_apply]
      rcases Desk.describeStack name d with ⟨f | stack, d'⟩ <;> rfl
  | checkVpc | deleteStack | deleteCertificate | deleteAwsKeyPair =>
      cases h
      rfl
  | _ => cases h

end Site

namespace Episode

def sessions (x : Episode Site) : List Fields := x.before.host.sessions x.after.host

/-- What an episode has to do with sessions. -/
inductive Holds (x : Episode Site) : Prop where
  | offline : x.after.host.cloud = x.before.host.cloud →
      x.after.desk.manager = x.before.desk.manager → Holds x
  | check (a : AwsAccount) : x.exchange.call = .validateAws a →
      x.after.desk.manager = x.before.desk.manager →
      (AllGiven a → x.sessions = [a.arguments]) → (¬AllGiven a → x.sessions = []) → Holds x
  | errand {calls : List CloudCall} (e : Errand) : x.exchange.call.errand? = some e →
      x.after.host.cloud.calls = x.before.host.cloud.calls ++ calls →
      e.Settles x.before.desk.manager x.after.desk.manager calls → Holds x

variable {x : Episode Site}

theorem Answered.checked (answered : x.Answered) {a : AwsAccount}
    (call : x.exchange.call = .validateAws a) :
    x.after.desk.manager = x.before.desk.manager ∧
      ∃ h, (x.exchange = ⟨.validateAws a, .ok ()⟩ → (checkAws a h).1 = .ok ()) ∧
        x.sessions = h.sessions (checkAws a h).2 ∧ x.requests = h.requests (checkAws a h).2 := by
  obtain ⟨before, ⟨c, answer⟩, after⟩ := x
  subst call
  obtain ⟨tags, same⟩ := answered
  let h : Host := { before.host with journal := { before.host.journal with tags } }
  have told : (checkAws a h).1 = answer := congrArg Prod.fst same
  have left : (Site.reply before tags (.validateAws a) before).2 = after := congrArg Prod.snd same
  subst left
  refine ⟨rfl, h, fun passed => ?_, rfl, rfl⟩
  cases passed
  exact told

theorem Answered.holds (answered : x.Answered) (sound : x.before.desk.manager.Sound) : x.Holds := by
  obtain ⟨tags, same⟩ := id answered
  have left : (Site.reply x.before tags x.exchange.call x.before).2 = x.after :=
    congrArg Prod.snd same
  by_cases online : x.exchange.call.isOnline = true
  · rcases Call.online_cases online with ⟨a, call⟩ | ⟨e, errand⟩
    · obtain ⟨manager, h, -, sessions, -⟩ := answered.checked call
      refine .check a call manager (fun given => ?_) fun missing => ?_
      · rw [sessions, Credentials.checkAws_sessions given]
      · obtain ⟨f, failed, -⟩ := Credentials.checkAws_missing missing h
        rw [sessions, failed, Host.sessions_self]
    · rw [Site.reply_errand errand] at left
      obtain ⟨calls, recorded, settles⟩ := Site.onDesk_comes e.perform tags x.before
        (P := fun _ => e.Settles x.before.desk.manager)
        fun d same => same ▸ Errand.perform_settles e (same ▸ sound)
      rw [left] at recorded settles
      exact .errand e errand recorded settles
  · have spared := Site.reply_offline x.before tags (eq_false_of_ne_true online) x.before
    rw [left] at spared
    exact .offline (congrArg Prod.fst spared) (congrArg Prod.snd spared)

theorem quiet_of_calls (same : x.after.host.cloud.calls = x.before.host.cloud.calls) :
    x.sessions = [] ∧ x.requests = [] := by
  rw [sessions, requests, Host.sessions, Host.requests, same, List.drop_length]
  exact ⟨rfl, rfl⟩

namespace Holds

theorem keys (h : x.Holds) : x.after.desk.manager.keys = x.before.desk.manager.keys := by
  cases h with
  | offline _ manager | check _ _ manager => rw [manager]
  | errand _ _ _ settles => exact settles.enters.keys

theorem sound (h : x.Holds) (sound : x.before.desk.manager.Sound) :
    x.after.desk.manager.Sound := by
  cases h with
  | offline _ manager | check _ _ manager => exact manager ▸ sound
  | errand _ _ _ settles => exact settles.sound

/-- A session that comes to be there is opened on an errand, with the keys. -/
theorem entered (h : x.Holds) (missing : x.before.desk.manager.session = none)
    (there : x.after.desk.manager.session ≠ none) :
    x.exchange.call.errand? ≠ none ∧ x.sessions = [x.before.desk.manager.keys.arguments] := by
  cases h with
  | offline _ manager | check _ _ manager => exact absurd (manager ▸ missing) there
  | errand e call recorded settles =>
      refine ⟨by rw [call]; exact nofun, ?_⟩
      rw [sessions, Host.sessions_of_calls recorded]
      exact settles.enters.entered missing there

/-- A session is opened with the credentials that are checked, or with the keys on an errand. -/
theorem opened (h : x.Holds) {k : Fields} (member : k ∈ x.sessions) :
    (∃ a, x.exchange.call = .validateAws a ∧ AllGiven a ∧ k = a.arguments) ∨
      x.exchange.call.errand? ≠ none ∧ k = x.before.desk.manager.keys.arguments := by
  cases h with
  | offline cloud =>
      rw [(quiet_of_calls (congrArg Cloud.calls cloud)).1] at member
      cases member
  | check a call _ opened none =>
      by_cases given : AllGiven a
      · rw [opened given] at member
        exact .inl ⟨a, call, given, List.mem_singleton.mp member⟩
      · rw [none given] at member
        cases member
  | errand e call recorded settles =>
      rw [sessions, Host.sessions_of_calls recorded] at member
      exact .inr ⟨by rw [call]; exact nofun, settles.enters.arguments member⟩

theorem asked (h : x.Holds) (errand : x.exchange.call.errand? ≠ none) (asks : x.requests ≠ []) :
    x.after.desk.manager.session ≠ none := by
  cases h with
  | offline cloud => exact absurd (quiet_of_calls (congrArg Cloud.calls cloud)).2 asks
  | check a call =>
      rw [call] at errand
      exact absurd rfl errand
  | errand e call recorded settles =>
      refine settles.session.mpr (.inr (by_contra fun idle => ?_))
      rw [settles.idle idle, List.append_nil] at recorded
      exact asks (quiet_of_calls recorded).2

end Holds
end Episode

/-- Episodes that lead the manager of sessions from one state to another. -/
inductive Leads : Manager → List (Episode Site) → Manager → Prop where
  | nil (m : Manager) : Leads m [] m
  | cons {x : Episode Site} {xs : List (Episode Site)} {m : Manager} :
      x.Holds → Leads x.after.desk.manager xs m → Leads x.before.desk.manager (x :: xs) m

theorem episodes_lead {α : Type} (p : Program α) {s : Site} (sound : s.desk.manager.Sound) :
    ∃ m, Leads s.desk.manager (p.episodes Site.handler s) m := by
  induction p generalizing s with
  | done a => exact ⟨_, .nil _⟩
  | log r next ih => exact ih (s := Site.handler.log r s) sound
  | call tags c next ih =>
      have holds := Episode.Answered.holds
        (x := ⟨s, ⟨c, (Site.handler.answer tags c s).1⟩, (Site.handler.answer tags c s).2⟩)
        ⟨tags, rfl⟩ sound
      obtain ⟨m, leads⟩ := ih _ (holds.sound sound)
      exact ⟨m, .cons holds leads⟩

namespace Leads
variable {m m' : Manager} {xs before after : List (Episode Site)} {x : Episode Site}

theorem keys (h : Leads m xs m') : m'.keys = m.keys := by
  induction h with
  | nil => rfl
  | cons holds _ ih => exact ih.trans holds.keys

theorem cut (h : Leads m xs m') (split : xs = before ++ x :: after) :
    Leads m before x.before.desk.manager ∧ x.Holds := by
  induction h generalizing before with
  | nil => simp at split
  | cons holds _ ih =>
      cases before with
      | nil =>
          cases split
          exact ⟨.nil _, holds⟩
      | cons y before =>
          cases split
          obtain ⟨front, last⟩ := ih rfl
          exact ⟨.cons holds front, last⟩

theorem snoc (h : Leads m before x.before.desk.manager) (holds : x.Holds) :
    Leads m (before ++ [x]) x.after.desk.manager := by
  generalize last : x.before.desk.manager = m' at h
  induction h with
  | nil => exact last ▸ .cons holds (.nil _)
  | cons first _ ih => exact .cons first (ih last)

theorem entered (h : Leads m xs m') (missing : m.session = none) (there : m'.session ≠ none) :
    ∃ y ∈ xs, y.exchange.call.errand? ≠ none ∧ y.sessions = [m.keys.arguments] := by
  induction h with
  | nil => exact absurd missing there
  | @cons y ys m' holds _ ih =>
      by_cases still : y.after.desk.manager.session = none
      · obtain ⟨z, member, errand, sessions⟩ := ih still there
        rw [holds.keys] at sessions
        exact ⟨z, List.mem_cons_of_mem y member, errand, sessions⟩
      · exact ⟨y, List.mem_cons_self, holds.entered missing still⟩

end Leads

/-- The account's credentials have passed their check: in a session that was opened with them, the
service has told whose they are. -/
structure Episode.Verifies (x : Episode Site) (a : AwsAccount) : Prop where
  passed : x.exchange = ⟨.validateAws a, .ok ()⟩
  session : x.sessions = [a.arguments]
  told : Told x.before.host x.after.host

theorem Episode.Answered.verifies {x : Episode Site} (answered : x.Answered) {a : AwsAccount}
    (passed : x.exchange = ⟨.validateAws a, .ok ()⟩) : AllGiven a ∧ x.Verifies a := by
  obtain ⟨-, h, told, sessions, requests⟩ := answered.checked (a := a) (by rw [passed])
  obtain ⟨given, session, reply, asked, good⟩ := Credentials.checkAws_passed (told passed)
  exact ⟨given, passed, sessions.trans session, reply, requests.trans asked, good⟩

/-- What becomes of sessions in a run under an account. -/
structure Vouched (a : AwsAccount) (xs : List (Episode Site)) : Prop where
  /-- Every session is opened with the account's credentials, by the check of these or, once they
  have passed it, by an errand. -/
  opened : ∀ before x after, xs = before ++ x :: after → ∀ k ∈ x.sessions, k = a.arguments ∧
    (x.exchange.call = .validateAws a ∨ ∃ y ∈ before, y.Verifies a)
  /-- Errands ask the service in such a session. -/
  asked : ∀ before x after, xs = before ++ x :: after → x.exchange.call.errand? ≠ none →
    x.requests ≠ [] → (∃ y ∈ before, y.Verifies a) ∧
      ∃ y ∈ before ++ [x], y.exchange.call.errand? ≠ none ∧ y.sessions = [a.arguments]
  /-- If credentials are missing, there are no sessions. -/
  missing : ¬AllGiven a → ∀ x ∈ xs, x.sessions = []

theorem Passed.credentials {supported : List Provider} {arguments : List String} {e : Environment}
    {es : List Exchange} (h : Passed supported arguments e es) (aws : e.provider = .aws) :
    ⟨.validateAws e.aws, .ok ()⟩ ∈ es := by
  cases h with
  | intro =>
      simp only [credentialsChecked, aws]
      exact List.mem_append_right _ (List.mem_singleton.mpr rfl)

section
variable (settings : Settings) (store : Store) (width : Nat) (h : Host) (supported : List Provider)
  (arguments : List String) (p : Progress)

/-- In a run for a provider whose credentials are checked, errands come behind the check. -/
theorem run_verifies {s : Site} (aws : p.env.provider = .aws) {before after : List (Episode Site)}
    {x : Episode Site}
    (split : (run supported arguments p).episodes Site.handler s = before ++ x :: after)
    (errand : x.exchange.call.errand? ≠ none) :
    AllGiven p.env.aws ∧ ∃ y ∈ before, y.Verifies p.env.aws := by
  obtain ⟨e, errand⟩ := Option.ne_none_iff_exists'.mp errand
  have history := Program.episodes_history Site.handler (run supported arguments p) s
  rw [split, List.map_append, List.map_cons] at history
  have guarded := (run_ensures supported arguments p).performed Site.handler s
  obtain ⟨passed, rest, same, passes⟩ :=
    guarded.checked _ _ _ history.symm (Call.touches_of_errand errand)
  have checked : ⟨.validateAws p.env.aws, .ok ()⟩ ∈ before.map (·.exchange) := by
    rw [same]
    exact List.mem_append_left rest (passes.credentials aws)
  obtain ⟨y, member, passed⟩ := List.mem_map.mp checked
  have answered := (Episode.answered_cut (fun _ => Program.episodes_answered) split).2 y member
  obtain ⟨given, verifies⟩ := answered.verifies passed
  exact ⟨given, y, member, verifies⟩

theorem run_opened (aws : p.env.provider = .aws) {before after : List (Episode Site)}
    {x : Episode Site}
    (split : (run supported arguments p).episodes Site.handler (Site.of settings p.env store width h) =
      before ++ x :: after) {k : Fields} (member : k ∈ x.sessions) :
    AllGiven p.env.aws ∧ k = p.env.aws.arguments ∧
      (x.exchange.call = .validateAws p.env.aws ∨ ∃ y ∈ before, y.Verifies p.env.aws) := by
  obtain ⟨m, leads⟩ := episodes_lead (run supported arguments p)
    (s := Site.of settings p.env store width h) (Manager.sound_fresh _)
  obtain ⟨front, holds⟩ := leads.cut split
  rcases holds.opened member with ⟨a, call, given, rfl⟩ | ⟨errand, rfl⟩
  · have among : x.exchange ∈ (run supported arguments p).history Site.handler
        (Site.of settings p.env store width h) := by
      rw [← Program.episodes_history, split]
      exact List.mem_map_of_mem (List.mem_append_right _ List.mem_cons_self)
    have concerns := run_concerns Site.handler _ supported arguments p among
    rw [call] at concerns
    obtain ⟨-, rfl⟩ := concerns
    exact ⟨given, rfl, .inl call⟩
  · obtain ⟨given, behind⟩ := run_verifies supported arguments p aws split errand
    rw [front.keys]
    exact ⟨given, Site.of_arguments given settings store width h, .inr behind⟩

theorem run_vouched (aws : p.env.provider = .aws) :
    Vouched p.env.aws
      ((run supported arguments p).episodes Site.handler (Site.of settings p.env store width h)) where
  opened _ _ _ split _ member :=
    (run_opened settings store width h supported arguments p aws split member).2
  asked before x after split errand asks := by
    obtain ⟨m, leads⟩ := episodes_lead (run supported arguments p)
      (s := Site.of settings p.env store width h) (Manager.sound_fresh _)
    obtain ⟨front, holds⟩ := leads.cut split
    obtain ⟨given, behind⟩ := run_verifies supported arguments p aws split errand
    obtain ⟨y, member, errand, session⟩ :=
      (front.snoc holds).entered rfl (holds.asked errand asks)
    rw [Site.of_arguments given] at session
    exact ⟨behind, y, member, errand, session⟩
  missing missing x member := by
    obtain ⟨before, after, split⟩ := List.append_of_mem member
    refine List.eq_nil_iff_forall_not_mem.mpr fun k opened => missing ?_
    exact (run_opened settings store width h supported arguments p aws split opened).1

end

theorem perform_sessions {α : Type} (p : Program α) (s : Site) :
    (∃ calls, (p.perform Site.handler s).2.host.cloud.calls = s.host.cloud.calls ++ calls) ∧
      s.host.sessions (p.perform Site.handler s).2.host =
        (p.episodes Site.handler s).flatMap (·.sessions) := by
  induction p generalizing s with
  | done a => exact ⟨⟨[], (List.append_nil _).symm⟩, Host.sessions_self _⟩
  | log r next ih => exact ih (Site.handler.log r s)
  | call tags c next ih =>
      obtain ⟨es, contacts, -⟩ := reply_engages s tags c s
      obtain ⟨calls, first, -⟩ := contacts.replayed
      obtain ⟨⟨calls', second⟩, sessions⟩ :=
        ih (Site.handler.answer tags c s).1 (Site.handler.answer tags c s).2
      refine ⟨⟨calls ++ calls', ?_⟩, ?_⟩
      · rw [← List.append_assoc, ← first]
        exact second
      · exact (Host.sessions_append first second).trans (congrArg (_ ++ ·) sessions)

/-- What is deleted is deleted under the credentials that were checked. If an account passes its
check, errands open their session as the check has opened the one in which the service told whose
the credentials are, whatever profile is set; if credentials are missing, nothing is done. So it is
in every run that checks the account. -/
theorem sessions_verified (settings : Settings) (store : Store) (width : Nat) (p : Progress)
    (h : Host) :
    (∀ g, (checkAws p.env.aws g).1 = .ok () →
      Told g (checkAws p.env.aws g).2 ∧
      g.sessions (checkAws p.env.aws g).2 = [p.env.aws.arguments] ∧
      ∀ errands,
        h.sessions (Errand.performAll errands (Site.of settings p.env store width h).desk).host =
          if ∃ x ∈ errands, x.Asks then g.sessions (checkAws p.env.aws g).2 else []) ∧
    (¬AllGiven p.env.aws → ∀ g, ∃ f, checkAws p.env.aws g = (.error f, g) ∧ f.IsCredential) ∧
    (p.env.provider = .aws → ∀ supported arguments,
      let s := Site.of settings p.env store width h
      h.sessions ((run supported arguments p).perform Site.handler s).2.host =
          ((run supported arguments p).episodes Site.handler s).flatMap (·.sessions) ∧
        Vouched p.env.aws ((run supported arguments p).episodes Site.handler s)) := by
  refine ⟨fun g passed => ?_, fun missing g => Credentials.checkAws_missing missing g,
    fun aws supported arguments => ?_⟩
  · obtain ⟨given, session, told⟩ := Credentials.checkAws_passed passed
    refine ⟨told, session, fun errands => ?_⟩
    rw [session]
    exact Site.errands_sessions given settings store width h errands
  · exact ⟨(perform_sessions _ (Site.of settings p.env store width h)).2,
      run_vouched settings store width h supported arguments p aws⟩

def accounted : Environment where
  provider := .aws
  aws := { accessKeyId := "id", secretAccessKey := "secret", region := "region" }
  keyPair := { name := "pair" }

/-- A host where the record is on file and the service knows the account. -/
def accountedHost : Host where
  files := ⟨[(["envteardown-state.json"], .file (.text ""))]⟩
  replies := [{ ending := .exited 0 "Terraform v0.8.7" "" }]
  cloud := { replies := [("sts.get_caller_identity", [{ value := .obj [
    ("Account", .str "1"), ("Arn", .str "user"), ("UserId", .str "id")] }])] }

/-- A run with two sessions, under a profile that makes no difference. -/
theorem sessions_verified_profiled :
    let s := Site.of { awsProfile := some "other" } accounted ⟨⟨true, []⟩⟩ 80 accountedHost
    (checkAws accounted.aws accountedHost).1 = .ok () ∧ accounted.provider = .aws ∧
      (accountedHost.sessions
        ((run Provider.all ["-n"] { env := accounted }).perform Site.handler s).2.host).length = 2 ∧
      Vouched accounted.aws
        ((run Provider.all ["-n"] { env := accounted }).episodes Site.handler s) :=
  ⟨rfl, rfl, by decide +kernel,
    ((sessions_verified _ ⟨⟨true, []⟩⟩ 80 { env := accounted } accountedHost).2.2 rfl
      Provider.all ["-n"]).2⟩

end Dismantle.Teardown
