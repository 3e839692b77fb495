import Dismantle.Proofs.Aws.Caches
import Dismantle.Proofs.Aws.MissingCredentials
/-! What sessions are opened with: by the check of an account's credentials, and by errands. -/
namespace Dismantle

def CloudCall.opening? (c : CloudCall) : Option Fields :=
  if c.name = "session" then some c.arguments else none

namespace Aws

def openingsOf (calls : List CloudCall) : List Fields := calls.filterMap (·.opening?)

theorem openingsOf_append (calls calls' : List CloudCall) :
    openingsOf (calls ++ calls') = openingsOf calls ++ openingsOf calls' := List.filterMap_append

theorem openingsOf_of_asks {calls : List CloudCall} (asks : ∀ q ∈ calls, q.asks = true) :
    openingsOf calls = [] := by
  refine List.filterMap_eq_nil_iff.mpr fun q member => if_neg fun session => ?_
  have silent := asks q member
  rw [CloudCall.asks, session] at silent
  cases silent

end Aws

/-- What the sessions were opened with that were opened from one host to a later one. -/
def Host.sessions (h h' : Host) : List Fields :=
  Aws.openingsOf (h'.cloud.calls.drop h.cloud.calls.length)

theorem Host.sessions_of_calls {h h' : Host} {calls : List CloudCall}
    (recorded : h'.cloud.calls = h.cloud.calls ++ calls) : h.sessions h' = Aws.openingsOf calls := by
  rw [sessions, recorded, List.drop_left]

theorem Host.sessions_self (h : Host) : h.sessions h = [] := by
  rw [sessions, List.drop_length]
  rfl

theorem Host.sessions_append {h h' h'' : Host} {calls calls' : List CloudCall}
    (first : h'.cloud.calls = h.cloud.calls ++ calls)
    (second : h''.cloud.calls = h'.cloud.calls ++ calls') :
    h.sessions h'' = h.sessions h' ++ h'.sessions h'' := by
  have whole : h''.cloud.calls = h.cloud.calls ++ (calls ++ calls') := by
    rw [second, first, List.append_assoc]
  rw [Host.sessions_of_calls whole, Host.sessions_of_calls first, Host.sessions_of_calls second,
    Aws.openingsOf_append]

namespace Aws
namespace Manager
variable {m m' m'' : Manager} {opened opened' : List Fields} {calls : List CloudCall}

/-- Keys are kept, and so is a session. One is opened with the keys, where there was none. -/
inductive Enters (m : Manager) : List Fields → Manager → Prop where
  | stays {m' : Manager} : m'.keys = m.keys → m'.session = m.session → Enters m [] m'
  | opens {m' : Manager} : m'.keys = m.keys → m.session = none → m'.session ≠ none →
      Enters m [m.keys.arguments] m'

theorem Enters.keys (h : m.Enters opened m') : m'.keys = m.keys := by
  cases h <;> assumption

theorem Enters.trans (h : m.Enters opened m') (h' : m'.Enters opened' m'') :
    m.Enters (opened ++ opened') m'' := by
  cases h with
  | stays keys session =>
      cases h' with
      | stays keys' session' => exact .stays (keys'.trans keys) (session'.trans session)
      | opens keys' none there =>
          rw [keys]
          exact .opens (keys'.trans keys) (session.symm.trans none) there
  | opens keys none there =>
      cases h' with
      | stays keys' session' => exact .opens (keys'.trans keys) none (session' ▸ there)
      | opens _ none' _ => exact absurd none' there

theorem Enters.arguments (h : m.Enters opened m') {k : Fields} (member : k ∈ opened) :
    k = m.keys.arguments := by
  cases h with
  | stays => cases member
  | opens => exact List.mem_singleton.mp member

theorem Enters.entered (h : m.Enters opened m') (missing : m.session = none)
    (there : m'.session ≠ none) : opened = [m.keys.arguments] := by
  cases h with
  | stays _ session => exact absurd (session.trans missing) there
  | opens => rfl

theorem Opens.enters {s : Session} (h : m.Opens s m' calls) : m.Enters (openingsOf calls) m' := by
  cases h with
  | kept => exact .stays rfl rfl
  | opened none => exact .opens rfl none nofun

theorem Makes.enters {service : String} {c : Client} (h : m.Makes service c m' calls) :
    m.Enters (openingsOf calls) m' := by
  cases h with
  | kept => exact .stays rfl rfl
  | made _ opens =>
      rw [openingsOf_append]
      exact opens.enters.trans (.stays rfl rfl)

/-- A service is asked: its client is there by then, and only requests are made. -/
def Serves (m m' : Manager) (calls : List CloudCall) : Prop :=
  ∃ service c made requests, m.Makes service c m' made ∧ calls = made ++ requests ∧
    ∀ q ∈ requests, q.asks = true

theorem Serves.enters (h : m.Serves m' calls) : m.Enters (openingsOf calls) m' := by
  obtain ⟨service, c, made, requests, makes, rfl, asks⟩ := h
  rw [openingsOf_append, openingsOf_of_asks asks, List.append_nil]
  exact makes.enters

theorem Serves.sound (h : m.Serves m' calls) (sound : m.Sound) : m'.Sound := by
  obtain ⟨service, c, made, requests, makes, -⟩ := h
  exact makes.sound sound

theorem Serves.session (h : m.Serves m' calls) (sound : m.Sound) : m'.session ≠ none := by
  obtain ⟨service, c, made, requests, makes, -⟩ := h
  exact makes.has sound (x := .session) (.inl rfl)

end Manager

namespace Desk
variable {α β : Type} {d : Desk}

/-- Wherever it starts, an act calls nothing but the service, and leaves the manager alone. -/
def Requests (act : Act Desk α) : Prop :=
  ∀ d, Comes act d fun _ m calls => m = d.manager ∧ ∀ q ∈ calls, q.asks = true

namespace Requests

theorem pure (a : α) : Requests (Pure.pure a : Act Desk α) :=
  fun _ => comes_pure ⟨rfl, List.forall_mem_nil _⟩

theorem fail (f : Fault) : Requests (Act.fail f : Act Desk α) :=
  fun _ => comes_fail ⟨rfl, List.forall_mem_nil _⟩

theorem ofExcept (r : Except Fault α) : Requests (Act.ofExcept r) :=
  fun _ => comes_ofExcept ⟨rfl, List.forall_mem_nil _⟩

theorem note (level : Log.Level) (logger message : String) :
    Requests (Desk.note level logger message) :=
  fun _ => comes_note ⟨rfl, List.forall_mem_nil _⟩

theorem call {name : String} {arguments : Fields}
    (asks : CloudCall.asks ⟨name, arguments⟩ = true) : Requests (Desk.call name arguments) :=
  fun _ => ⟨[⟨name, arguments⟩], rfl, rfl, List.forall_mem_singleton.mpr asks⟩

theorem attempt {act : Act Desk α} (h : Requests act) : Requests act.attempt := h

theorem mapFault {act : Act Desk α} (h : Requests act) (f : Fault → Fault) :
    Requests (act.mapFault f) := h

theorem bind {act : Act Desk β} {next : β → Act Desk α} (h : Requests act)
    (hn : ∀ b, Requests (next b)) : Requests (act >>= next) := by
  intro d
  refine Comes.bind ((h d).mono ?_)
  rintro (f | b) m calls ⟨rfl, asks⟩
  · exact ⟨rfl, asks⟩
  · intro d' same
    refine (hn b d').mono ?_
    rintro r m' calls' ⟨rfl, asks'⟩
    exact ⟨same, List.forall_mem_append.mpr ⟨asks, asks'⟩⟩

theorem request {name : String} {arguments : Fields}
    (asks : CloudCall.asks ⟨name, arguments⟩ = true) : Requests (Desk.request name arguments) := by
  refine .bind (.call asks) fun reply => ?_
  split
  · exact .fail _
  · exact .pure _

end Requests

theorem client_serves {service : String} {next : Nat → Act Desk α} (hn : ∀ n, Requests (next n)) :
    Comes (client service >>= next) d fun _ => d.manager.Serves := by
  refine Comes.bind ((client_comes service d).mono ?_)
  rintro _ m made ⟨c, n, rfl, makes⟩ d' rfl
  refine (hn n d').mono ?_
  rintro r m' requests ⟨rfl, asks⟩
  exact ⟨service, c, made, requests, makes, rfl, asks⟩

theorem describeStack_serves (name : String) :
    Comes (describeStack name) d fun _ => d.manager.Serves := by
  refine client_serves fun _ => .bind (.attempt (.request rfl)) fun r => ?_
  split
  · exact .ofExcept _
  · split <;> exact .fail _
  · exact .fail _

theorem deleteStack_serves (patience : Patience) (name : String) :
    Comes (deleteStack patience name) d fun _ => d.manager.Serves := by
  refine client_serves fun _ => .bind (.mapFault (.request rfl) _) fun _ => .bind (.note _ _ _) fun _ => ?_
  refine .bind (.attempt (.request rfl)) fun r => ?_
  split
  · exact .fail _
  · exact .fail _
  · exact .note _ _ _

theorem checkVpc_serves {id : Json} (known : id.counts = true) :
    Comes (checkVpc id) d fun _ => d.manager.Serves := by
  rw [checkVpc, known]
  refine client_serves fun _ => .bind (.call rfl) fun reply => ?_
  refine .bind (.mapFault (.ofExcept _) _) fun names => ?_
  split
  · exact .pure ()
  · exact .bind (.ofExcept _) fun _ => .fail _

theorem remove_requests {logger thing gone name : String} {c : Circumstances} {act : Act Desk Json}
    (h : Requests act) : Requests (remove logger thing gone name c act) := by
  refine .bind (.attempt h) fun r => ?_
  split
  · exact .note _ _ _
  · split
    · exact .note _ _ _
    · exact .fail _
  · exact .fail _

end Desk

namespace Errand

theorem perform_serves {e : Errand} (asks : e.Asks) (d : Desk) :
    Desk.Comes e.perform d fun _ => d.manager.Serves := by
  cases e with
  | describeStack name =>
      refine Desk.Comes.bind ((Desk.describeStack_serves name).mono fun r m calls serves => ?_)
      cases r with
      | error f => exact serves
      | ok stack =>
          rintro d' rfl
          exact Desk.comes_pure (by rwa [List.append_nil])
  | deleteStack patience name => exact Desk.deleteStack_serves patience name
  | checkVpc id => exact Desk.checkVpc_serves asks
  | deleteCertificate name =>
      exact Desk.client_serves fun _ => Desk.remove_requests (.request rfl)
  | deleteKeyPair name =>
      change Desk.Comes (Desk.deleteKeyPair name) d _
      rw [Desk.deleteKeyPair, if_neg asks]
      exact Desk.client_serves fun _ => Desk.remove_requests (.request rfl)

theorem perform_idles {e : Errand} (idle : ¬e.Asks) (d : Desk) :
    Desk.Comes e.perform d fun _ m calls => m = d.manager ∧ calls = [] := by
  cases e with
  | checkVpc id =>
      have unknown : id.counts = false := eq_false_of_ne_true idle
      change Desk.Comes (Desk.checkVpc id) d _
      rw [Desk.checkVpc, unknown]
      exact Desk.comes_note ⟨rfl, rfl⟩
  | deleteKeyPair name =>
      change Desk.Comes (Desk.deleteKeyPair name) d _
      rw [Desk.deleteKeyPair, if_pos (not_not.mp idle)]
      exact Desk.comes_note ⟨rfl, rfl⟩
  | describeStack | deleteStack | deleteCertificate => exact absurd trivial idle

instance (e : Errand) : Decidable e.Asks :=
  match e with
  | .checkVpc id => inferInstanceAs (Decidable (id.counts = true))
  | .deleteKeyPair name => inferInstanceAs (Decidable (name ≠ ""))
  | .describeStack _ | .deleteStack _ _ | .deleteCertificate _ => .isTrue trivial

/-- What an errand does to the manager it works with, and with which calls. -/
structure Settles (e : Errand) (m m' : Manager) (calls : List CloudCall) : Prop where
  enters : m.Enters (openingsOf calls) m'
  sound : m'.Sound
  session : m'.session ≠ none ↔ m.session ≠ none ∨ e.Asks
  idle : ¬e.Asks → calls = []

theorem perform_settles (e : Errand) {d : Desk} (sound : d.manager.Sound) :
    Desk.Comes e.perform d fun _ => e.Settles d.manager := by
  by_cases asks : e.Asks
  · refine (perform_serves asks d).mono fun r m calls serves => ?_
    exact ⟨serves.enters, serves.sound sound, iff_of_true (serves.session sound) (.inr asks),
      absurd asks⟩
  · refine (perform_idles asks d).mono ?_
    rintro r m calls ⟨rfl, rfl⟩
    exact ⟨.stays rfl rfl, sound, (or_iff_left asks).symm, fun _ => rfl⟩

def performAll : List Errand → Desk → Desk
  | [], d => d
  | e :: es, d => performAll es (e.perform d).2

theorem performAll_enters (es : List Errand) {d : Desk} (sound : d.manager.Sound) :
    ∃ calls, (performAll es d).host.cloud.calls = d.host.cloud.calls ++ calls ∧
      d.manager.Enters (openingsOf calls) (performAll es d).manager ∧
      ((performAll es d).manager.session ≠ none ↔ d.manager.session ≠ none ∨ ∃ e ∈ es, e.Asks) := by
  induction es generalizing d with
  | nil => exact ⟨[], (List.append_nil _).symm, .stays rfl rfl, by simp [performAll]⟩
  | cons e es ih =>
      obtain ⟨calls, recorded, settles⟩ := perform_settles e sound
      obtain ⟨calls', recorded', enters, session⟩ := ih settles.sound
      refine ⟨calls ++ calls', ?_, ?_, ?_⟩
      · rw [performAll, recorded', recorded, List.append_assoc]
      · rw [openingsOf_append]
        exact settles.enters.trans enters
      · rw [performAll, session, settles.session, List.exists_mem_cons_iff, or_assoc]

/-- With new keys at most one session is opened, and one is if there is anything to ask for. -/
theorem performAll_sessions (es : List Errand) (h : Host) (k : Keys) :
    h.sessions (performAll es { host := h, manager := { keys := k } }).host =
      if ∃ e ∈ es, e.Asks then [k.arguments] else [] := by
  obtain ⟨calls, recorded, enters, session⟩ := performAll_enters es
    (d := { host := h, manager := { keys := k } }) (Manager.sound_fresh k)
  rw [Host.sessions_of_calls recorded]
  split
  case isTrue asks => exact enters.entered rfl (session.mpr (.inr asks))
  case isFalse idle =>
      generalize openingsOf calls = opened at enters
      cases enters with
      | stays => rfl
      | opens _ _ there => exact absurd ((session.mp there).resolve_left (fun some_ => some_ rfl)) idle

end Errand

theorem present?_some {s : String} (given : s ≠ "") : present? (some s) = some s :=
  Option.filter_eq_some_iff.mpr ⟨rfl, decide_eq_true given⟩

theorem Keys.arguments_of_present {k : Keys} {id secret region : String}
    (hasId : present? k.accessKeyId = some id) (hasSecret : present? k.secretAccessKey = some secret)
    (hasRegion : present? k.region = some region) :
    k.arguments = ([("aws_access_key_id", .str id), ("aws_secret_access_key", .str secret),
      ("region_name", .str region)] : Fields) := by
  simp only [Keys.arguments, hasId, hasSecret, hasRegion]
  rfl

/-- A session is opened, and it is asked whose credentials it has. -/
def inquiry (arguments : Fields) : List CloudCall :=
  [⟨"session", arguments⟩, ⟨"client", [("service", .str "sts")]⟩, identityCall]

/-- A new manager opens a session to verify with, whatever it is told. -/
theorem Manager.Verifies.inquires {k : Keys} {r : Except Fault Identity} {m : Manager}
    {calls : List CloudCall} (h : Manager.Verifies { keys := k } r m calls) :
    calls = inquiry k.arguments := by
  have first {c : Client} {m' : Manager} {made : List CloudCall}
      (makes : Manager.Makes { keys := k } "sts" c m' made) :
      made = [⟨"session", k.arguments⟩, ⟨"client", [("service", .str "sts")]⟩] ∧
        m'.session ≠ none := by
    cases makes with
    | kept known => cases known
    | made _ opens =>
        cases opens with
        | kept known => cases known
        | opened => exact ⟨rfl, nofun⟩
  cases h with
  | kept known => cases known
  | refused f _ makes =>
      rw [(first makes).1]
      rfl
  | answered r _ makes opens =>
      obtain ⟨rfl, there⟩ := first makes
      cases opens with
      | kept => rfl
      | opened none => exact absurd none there

end Aws

/-- What sessions are opened with that have the account's credentials. -/
def AwsAccount.arguments (a : AwsAccount) : Fields :=
  [("aws_access_key_id", .str a.accessKeyId), ("aws_secret_access_key", .str a.secretAccessKey),
    ("region_name", .str a.region)]

namespace Credentials
variable {a : AwsAccount}

theorem keysOf_arguments (given : AllGiven a) : (keysOf a).arguments = a.arguments :=
  Aws.Keys.arguments_of_present (Aws.present?_some given.1) (Aws.present?_some given.2.1)
    (Aws.present?_some given.2.2)

theorem demandAll_of_given (given : AllGiven a) :
    demandAll [("AWS access key ID", a.accessKeyId), ("AWS secret access key", a.secretAccessKey),
      ("AWS region", a.region)] = .ok () := by
  simp [demandAll, given.1, given.2.1, given.2.2]

theorem checkAws_calls (given : AllGiven a) (h : Host) :
    (checkAws a h).2.cloud.calls = h.cloud.calls ++ Aws.inquiry a.arguments := by
  obtain ⟨calls, recorded, verifies⟩ :=
    Aws.Desk.verify_comes { host := h, manager := { keys := keysOf a } }
  rw [verifies.inquires, keysOf_arguments given] at recorded
  rw [checkAws, Act.bind_apply, Act.ofExcept, demandAll_of_given given]
  dsimp only
  rw [Act.bind_apply]
  have left : (verify (keysOf a) h).2.cloud.calls = h.cloud.calls ++ Aws.inquiry a.arguments :=
    recorded
  revert left
  rcases verify (keysOf a) h with ⟨f | identity, h'⟩ <;> exact id

theorem checkAws_sessions (given : AllGiven a) (h : Host) :
    h.sessions (checkAws a h).2 = [a.arguments] :=
  Host.sessions_of_calls (checkAws_calls given h)

theorem checkAws_missing (missing : ¬AllGiven a) (h : Host) :
    ∃ f, checkAws a h = (.error f, h) ∧ f.IsCredential := by
  have demanded : ∃ f, demandAll [("AWS access key ID", a.accessKeyId),
      ("AWS secret access key", a.secretAccessKey), ("AWS region", a.region)] = .error f ∧
        f.IsCredential := by
    simp only [demandAll]
    split
    case isTrue => exact ⟨_, rfl, trivial⟩
    case isFalse id =>
        split
        case isTrue => exact ⟨_, rfl, trivial⟩
        case isFalse secret =>
            split
            case isTrue => exact ⟨_, rfl, trivial⟩
            case isFalse region => exact absurd ⟨id, secret, region⟩ missing
  obtain ⟨f, demanded, credential⟩ := demanded
  refine ⟨f, ?_, credential⟩
  rw [checkAws, Act.bind_apply, Act.ofExcept, demanded]

/-- The service has been asked whose credentials these are, and has told. -/
def Told (h h' : Host) : Prop :=
  ∃ reply, h.requests h' = [⟨Aws.identityCall, reply⟩] ∧ reply.fault = none

/-- Credentials that pass are complete, and whose they are is told in a session with them. -/
theorem checkAws_passed {h : Host} (passed : (checkAws a h).1 = .ok ()) :
    AllGiven a ∧ h.sessions (checkAws a h).2 = [a.arguments] ∧ Told h (checkAws a h).2 := by
  have given : AllGiven a := by
    by_contra missing
    obtain ⟨f, failed, -⟩ := checkAws_missing missing h
    rw [failed] at passed
    cases passed
  refine ⟨given, checkAws_sessions given h, (h.cloud.call "sts.get_caller_identity" []).1, ?_, ?_⟩
  · rw [Host.requests, checkAws_calls given, List.drop_left]
    rfl
  · by_contra fault
    obtain ⟨f, fault⟩ := Option.ne_none_iff_exists'.mp fault
    cases passed.symm.trans (checkAws_of_fault given fault)

end Credentials
end Dismantle
