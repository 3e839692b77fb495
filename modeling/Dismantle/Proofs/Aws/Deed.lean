import Dismantle.Aws.Manager
/-! What a manager of sessions and clients can be asked to do, and all that each deed does to it. -/
namespace Dismantle.Aws

/-- What can be asked of a manager. -/
inductive Deed where
  | session
  | client (service : String)
  | verify
  | clear
  deriving DecidableEq

/-- What a deed hands out. -/
inductive Gift where
  | session (s : Session)
  | client (service : String) (c : Client)
  | identity (i : Identity)
  | nothing

def Deed.perform : Deed → Act Desk Gift
  | .session => do return .session (← Desk.session)
  | .client service => do return .client service (← Desk.clientOf service)
  | .verify => do return .identity (← Desk.verify)
  | .clear => do
    Desk.clear
    return .nothing

def identityCall : CloudCall := ⟨"sts.get_caller_identity", []⟩

namespace Manager

/-- The session as it is, or a new one. -/
inductive Opens (m : Manager) : Session → Manager → List CloudCall → Prop where
  | kept {s : Session} : m.session = some s → Opens m s m []
  | opened : m.session = none → Opens m (m.keys.open_ m.opened)
      { m with session := some (m.keys.open_ m.opened), opened := m.opened + 1 }
      [⟨"session", m.keys.arguments⟩]

/-- The client of a service as it is, or a new one, made from the session. -/
inductive Makes (m : Manager) (service : String) : Client → Manager → List CloudCall → Prop where
  | kept {c : Client} : m.clients.lookup service = some c → Makes m service c m []
  | made {s : Session} {m' : Manager} {calls : List CloudCall} :
      m.clients.lookup service = none → m.Opens s m' calls → Makes m service ⟨m'.made, s⟩
        { m' with clients := m'.clients ++ [(service, ⟨m'.made, s⟩)], made := m'.made + 1 }
        (calls ++ [⟨"client", [("service", .str service)]⟩])

/-- The identity as it is, or what is made of the service's answer. -/
inductive Verifies (m : Manager) : Except Fault Identity → Manager → List CloudCall → Prop where
  | kept {i : Identity} : m.identity = some i → Verifies m (.ok i) m []
  | refused {c : Client} {m' : Manager} {calls : List CloudCall} (f : Fault) :
      m.identity = none → m.Makes "sts" c m' calls →
        Verifies m (.error f) m' (calls ++ [identityCall])
  | answered {c : Client} {s : Session} {m' m'' : Manager} {calls calls' : List CloudCall}
      (r : Except Fault Identity) :
      m.identity = none → m.Makes "sts" c m' calls → m'.Opens s m'' calls' →
        Verifies m r { m'' with identity := r.toOption } (calls ++ identityCall :: calls')

/-- All that a deed does: what it hands out, what becomes of the manager, and the calls it makes. -/
inductive Does (m : Manager) : Deed → Except Fault Gift → Manager → List CloudCall → Prop where
  | session {s : Session} {m' : Manager} {calls : List CloudCall} :
      m.Opens s m' calls → Does m .session (.ok (.session s)) m' calls
  | client {service : String} {c : Client} {m' : Manager} {calls : List CloudCall} :
      m.Makes service c m' calls →
        Does m (.client service) (.ok (.client service c)) m' calls
  | verified {i : Identity} {m' : Manager} {calls : List CloudCall} :
      m.Verifies (.ok i) m' calls → Does m .verify (.ok (.identity i)) m' calls
  | failed {f : Fault} {m' : Manager} {calls : List CloudCall} :
      m.Verifies (.error f) m' calls → Does m .verify (.error f) m' calls
  | clear : Does m .clear (.ok .nothing)
      { m with clients := [], session := none, identity := none } []

end Manager

theorem Manager.Opens.identity {m m' : Manager} {s : Session} {calls : List CloudCall}
    (h : m.Opens s m' calls) : m'.identity = m.identity := by
  cases h <;> rfl

theorem Manager.Makes.identity {m m' : Manager} {service : String} {c : Client}
    {calls : List CloudCall} (h : m.Makes service c m' calls) : m'.identity = m.identity := by
  cases h with
  | kept => rfl
  | made _ opens => exact opens.identity

namespace Desk
variable {α β : Type} {d : Desk} {P : Except Fault α → Manager → List CloudCall → Prop}

/-- From `d` an act comes to a result, leaves a manager and makes calls as `P` says. -/
def Comes (act : Act Desk α) (d : Desk)
    (P : Except Fault α → Manager → List CloudCall → Prop) : Prop :=
  ∃ calls, (act d).2.host.cloud.calls = d.host.cloud.calls ++ calls ∧
    P (act d).1 (act d).2.manager calls

theorem comes_pure {a : α} (h : P (.ok a) d.manager []) : Comes (pure a) d P :=
  ⟨[], (List.append_nil _).symm, h⟩

theorem comes_fail {f : Fault} (h : P (.error f) d.manager []) : Comes (Act.fail f) d P :=
  ⟨[], (List.append_nil _).symm, h⟩

theorem comes_ofExcept {r : Except Fault α} (h : P r d.manager []) : Comes (Act.ofExcept r) d P :=
  ⟨[], (List.append_nil _).symm, h⟩

theorem comes_attempt {act : Act Desk α}
    {P : Except Fault (Except Fault α) → Manager → List CloudCall → Prop}
    (h : Comes act d fun r => P (.ok r)) : Comes act.attempt d P := h

theorem Comes.bind {act : Act Desk β} {next : β → Act Desk α}
    (h : Comes act d fun r m calls => match r with
      | .ok b => ∀ d', d'.manager = m →
          Comes (next b) d' fun r' m' calls' => P r' m' (calls ++ calls')
      | .error f => P (.error f) m calls) : Comes (act >>= next) d P := by
  obtain ⟨calls, recorded, came⟩ := h
  unfold Comes
  rw [Act.bind_apply]
  revert recorded came
  rcases act d with ⟨f | b, d'⟩
  · exact fun recorded came => ⟨calls, recorded, came⟩
  · intro recorded came
    obtain ⟨calls', recorded', came'⟩ := came d' rfl
    refine ⟨calls ++ calls', ?_, came'⟩
    rw [recorded', recorded, List.append_assoc]

theorem comes_note {level : Log.Level} {logger message : String}
    {P : Except Fault Unit → Manager → List CloudCall → Prop} (h : P (.ok ()) d.manager []) :
    Comes (note level logger message) d P := ⟨[], (List.append_nil _).symm, h⟩

theorem comes_request {name : String} {arguments : Fields}
    {P : Except Fault Json → Manager → List CloudCall → Prop}
    (h : ∀ r, P r d.manager [⟨name, arguments⟩]) : Comes (request name arguments) d P := by
  refine Comes.bind ⟨[⟨name, arguments⟩], rfl, ?_⟩
  rintro d' same
  split
  · exact comes_fail (by rw [same, List.append_nil]; exact h _)
  · exact comes_pure (by rw [same, List.append_nil]; exact h _)

theorem session_comes (d : Desk) :
    Comes session d fun r m calls => ∃ s, r = .ok s ∧ d.manager.Opens s m calls := by
  unfold Comes session
  split
  case h_1 s known => exact ⟨[], (List.append_nil _).symm, s, rfl, .kept known⟩
  case h_2 none => exact ⟨[_], rfl, _, rfl, .opened none⟩

theorem clientOf_comes (service : String) (d : Desk) :
    Comes (clientOf service) d fun r m calls =>
      ∃ c, r = .ok c ∧ d.manager.Makes service c m calls := by
  unfold Comes clientOf
  split
  case h_1 c known => exact ⟨[], (List.append_nil _).symm, c, rfl, .kept known⟩
  case h_2 none =>
      refine Comes.bind (d := d)
        (P := fun r m calls => ∃ c, r = .ok c ∧ d.manager.Makes service c m calls) ?_
      obtain ⟨calls, recorded, s, same, opens⟩ := session_comes d
      refine ⟨calls, recorded, ?_⟩
      rw [same]
      intro d' left
      refine ⟨[⟨"client", [("service", .str service)]⟩], rfl, _, rfl, ?_⟩
      rw [← left] at opens
      exact .made none opens

theorem Comes.mono {act : Act Desk α} {Q : Except Fault α → Manager → List CloudCall → Prop}
    (h : Comes act d P) (imp : ∀ r m calls, P r m calls → Q r m calls) : Comes act d Q := by
  obtain ⟨calls, recorded, came⟩ := h
  exact ⟨calls, recorded, imp _ _ _ came⟩

theorem client_comes (service : String) (d : Desk) :
    Comes (client service) d fun r m calls =>
      ∃ c n, r = .ok n ∧ d.manager.Makes service c m calls := by
  refine Comes.bind ((clientOf_comes service d).mono ?_)
  rintro _ m calls ⟨c, rfl, makes⟩ d' rfl
  exact comes_pure ⟨c, c.number, rfl, by rwa [List.append_nil]⟩

theorem askIdentity_comes (unknown : d.manager.identity = none) :
    Comes askIdentity d d.manager.Verifies := by
  refine Comes.bind ((client_comes "sts" d).mono ?_)
  rintro _ m calls ⟨c, n, rfl, makes⟩ d' rfl
  refine Comes.bind (comes_request fun r => ?_)
  cases r with
  | error f => exact .refused f unknown makes
  | ok v =>
      intro d'' same
      refine Comes.bind ((session_comes d'').mono ?_)
      rintro _ m' calls' ⟨s, rfl, opens⟩ d3 rfl
      rw [same] at opens
      have answered (r : Except Fault Identity) := Manager.Verifies.answered r unknown makes opens
      refine Comes.bind (comes_ofExcept ?_)
      cases identityOf v s.region with
      | error f =>
          have unchanged : { d3.manager with identity := none } = d3.manager := by
            rw [← unknown, ← makes.identity, ← opens.identity]
          have came := answered (.error f)
          rw [Except.toOption, unchanged] at came
          rwa [List.append_nil]
      | ok i =>
          intro d4 same
          have came := answered (.ok i)
          rw [← same, ← List.append_nil calls'] at came
          exact ⟨[], (List.append_nil _).symm, came⟩

theorem verify_comes (d : Desk) : Comes verify d d.manager.Verifies := by
  unfold Comes verify
  split
  case h_1 i known => exact ⟨[], (List.append_nil _).symm, .kept known⟩
  case h_2 unknown =>
      refine Comes.bind (d := d) (P := d.manager.Verifies)
        (comes_attempt ((askIdentity_comes unknown).mono fun r m calls came d' same => ?_))
      rw [← same, ← List.append_nil calls] at came
      cases r with
      | ok i => exact comes_pure came
      | error f =>
          dsimp only
          split
          · exact Comes.bind (comes_note fun d'' same => comes_fail (by simpa [same] using came))
          · exact comes_fail came

theorem perform_comes (x : Deed) (d : Desk) : Comes x.perform d (d.manager.Does x) := by
  cases x with
  | session =>
      refine Comes.bind ((session_comes d).mono ?_)
      rintro _ m calls ⟨s, rfl, opens⟩ d' rfl
      exact comes_pure (.session (by rwa [List.append_nil]))
  | client service =>
      refine Comes.bind ((clientOf_comes service d).mono ?_)
      rintro _ m calls ⟨c, rfl, makes⟩ d' rfl
      exact comes_pure (.client (by rwa [List.append_nil]))
  | verify =>
      refine Comes.bind ((verify_comes d).mono fun r m calls came => ?_)
      cases r with
      | error f => exact .failed came
      | ok i =>
          rintro d' rfl
          refine comes_pure ?_
          rw [List.append_nil]
          exact .verified came
  | clear => exact ⟨[], (List.append_nil _).symm, .clear⟩

end Desk
end Dismantle.Aws
