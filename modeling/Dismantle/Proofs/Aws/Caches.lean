import Dismantle.Proofs.Aws.Deed
import Mathlib.Data.List.Nodup
/-! What a manager keeps through one deed: what has been made is not made again, clients belong to
the session at hand, and an identity is asked for until it is known. -/
namespace Dismantle

namespace Aws

/-- What is made when first needed, and kept. -/
inductive Thing where
  | session
  | client (service : String)
  deriving DecidableEq

end Aws

open Aws (Thing)

def CloudCall.made? (c : CloudCall) : Option Thing :=
  match c.name, c.arguments with
  | "session", _ => some .session
  | "client", [("service", .str service)] => some (.client service)
  | _, _ => none

namespace Aws

def Deed.Uses : Deed → Thing → Prop
  | .session, x => x = .session
  | .client service, x => x = .session ∨ x = .client service
  | .verify, x => x = .session ∨ x = .client "sts"
  | .clear, _ => False

def Gift.session? : Gift → Option Session
  | .session s => some s
  | .client _ c => some c.session
  | .identity _ | .nothing => none

def thingsOf (calls : List CloudCall) : List Thing := calls.filterMap (·.made?)

theorem thingsOf_append (calls calls' : List CloudCall) :
    thingsOf (calls ++ calls') = thingsOf calls ++ thingsOf calls' := List.filterMap_append

namespace Manager
variable {m m' m'' : Manager} {things things' : List Thing} {calls calls' : List CloudCall}

def Has (m : Manager) : Thing → Prop
  | .session => m.session ≠ none
  | .client service => m.clients.lookup service ≠ none

theorem has_session {s : Session} (h : m.session = some s) : m.Has .session :=
  fun none => nomatch none.symm.trans h

theorem has_client {service : String} {c : Client} (h : m.clients.lookup service = some c) :
    m.Has (.client service) := fun none => nomatch none.symm.trans h

/-- Something is made that was not there, and nothing is lost. -/
structure Grows (m : Manager) (things : List Thing) (m' : Manager) : Prop where
  nodup : things.Nodup
  new : ∀ x ∈ things, ¬m.Has x
  has (x : Thing) : m'.Has x ↔ m.Has x ∨ x ∈ things
  session (s : Session) : m.session = some s → m'.session = some s
  client (service : String) (c : Client) :
    m.clients.lookup service = some c → m'.clients.lookup service = some c

theorem Grows.refl (m : Manager) : m.Grows [] m where
  nodup := List.nodup_nil
  new := List.forall_mem_nil _
  has _ := by simp
  session _ same := same
  client _ _ same := same

theorem Grows.trans (h : m.Grows things m') (h' : m'.Grows things' m'') :
    m.Grows (things ++ things') m'' where
  nodup := by
    refine h.nodup.append h'.nodup fun x before after => ?_
    exact h'.new x after ((h.has x).mpr (.inr before))
  new x member := by
    rcases List.mem_append.mp member with before | after
    · exact h.new x before
    · exact fun there => h'.new x after ((h.has x).mpr (.inl there))
  has x := by rw [h'.has, h.has, List.mem_append, or_assoc]
  session s same := h'.session s (h.session s same)
  client service c same := h'.client service c (h.client service c same)

theorem lookup_snoc {clients : List (String × Client)} {service : String}
    (none : clients.lookup service = none) (c : Client) (other : String) :
    (clients ++ [(service, c)]).lookup other =
      if other = service then some c else clients.lookup other := by
  rw [List.lookup_append]
  split
  case isTrue same =>
      subst same
      simp [none]
  case isFalse apart =>
      have missed : (other == service) = false := beq_eq_false_iff_ne.mpr apart
      simp [List.lookup_cons, missed]

theorem Opens.grows {s : Session} (h : m.Opens s m' calls) : m.Grows (thingsOf calls) m' := by
  cases h with
  | kept => exact .refl m
  | opened none =>
      have session : thingsOf [⟨"session", m.keys.arguments⟩] = [.session] := rfl
      rw [session]
      refine ⟨List.nodup_singleton _, ?_, fun x => ?_, fun s known => ?_, fun _ _ same => same⟩
      · exact List.forall_mem_singleton.mpr fun there => there none
      · cases x <;> simp [Has]
      · cases none.symm.trans known

theorem Opens.session {s : Session} (h : m.Opens s m' calls) : m'.session = some s := by
  cases h with
  | kept known => exact known
  | opened => rfl

theorem Opens.clients {s : Session} (h : m.Opens s m' calls) : m'.clients = m.clients := by
  cases h <;> rfl

theorem Makes.grows {service : String} {c : Client} (h : m.Makes service c m' calls) :
    m.Grows (thingsOf calls) m' := by
  cases h with
  | kept => exact .refl m
  | made none opens =>
      rw [thingsOf_append]
      refine opens.grows.trans ?_
      rw [← opens.clients] at none
      have client : thingsOf [⟨"client", [("service", .str service)]⟩] = [.client service] := rfl
      rw [client]
      refine ⟨List.nodup_singleton _, ?_, fun x => ?_, fun _ same => same, fun other c' known => ?_⟩
      · exact List.forall_mem_singleton.mpr fun there => there none
      · cases x with
        | session => simp [Has]
        | client other =>
            simp only [Has, lookup_snoc none]
            split <;> simp [*]
      · rw [lookup_snoc none, if_neg, known]
        rintro rfl
        cases none.symm.trans known

theorem Grows.remember (h : m.Grows things m') (i : Option Identity) :
    m.Grows things { m' with identity := i } :=
  ⟨h.nodup, h.new, h.has, h.session, h.client⟩

theorem Verifies.grows {r : Except Fault Identity} (h : m.Verifies r m' calls) :
    m.Grows (thingsOf calls) m' := by
  cases h with
  | kept => exact .refl m
  | refused f _ makes =>
      have things := makes.grows.trans (.refl m')
      rwa [← show thingsOf [identityCall] = [] from rfl, ← thingsOf_append] at things
  | answered r _ makes opens =>
      have things := makes.grows.trans (opens.grows.remember r.toOption)
      rwa [thingsOf_append]

theorem Does.grows {x : Deed} {r : Except Fault Gift} (h : m.Does x r m' calls)
    (kept : x ≠ .clear) : m.Grows (thingsOf calls) m' := by
  cases h with
  | session opens => exact opens.grows
  | client makes => exact makes.grows
  | verified verifies | failed verifies => exact verifies.grows
  | clear => exact absurd rfl kept

theorem Opens.uses {s : Session} (h : m.Opens s m' calls) {x : Thing}
    (member : x ∈ thingsOf calls) : x = .session := by
  cases h with
  | kept => cases member
  | opened => exact List.mem_singleton.mp member

theorem Makes.uses {service : String} {c : Client} (h : m.Makes service c m' calls) {x : Thing}
    (member : x ∈ thingsOf calls) : x = .session ∨ x = .client service := by
  cases h with
  | kept => cases member
  | made _ opens =>
      rw [thingsOf_append] at member
      rcases List.mem_append.mp member with before | last
      · exact .inl (opens.uses before)
      · exact .inr (List.mem_singleton.mp last)

theorem Verifies.uses {r : Except Fault Identity} (h : m.Verifies r m' calls) {x : Thing}
    (member : x ∈ thingsOf calls) : x = .session ∨ x = .client "sts" := by
  cases h with
  | kept => cases member
  | refused f _ makes =>
      rw [thingsOf_append] at member
      rcases List.mem_append.mp member with before | last
      · exact makes.uses before
      · cases last
  | answered r _ makes opens =>
      rw [thingsOf_append] at member
      rcases List.mem_append.mp member with before | last
      · exact makes.uses before
      · exact .inl (opens.uses last)

theorem Does.uses {x : Deed} {r : Except Fault Gift} (h : m.Does x r m' calls) {y : Thing}
    (member : y ∈ thingsOf calls) : x.Uses y := by
  cases h with
  | session opens => exact opens.uses member
  | client makes => exact makes.uses member
  | verified verifies | failed verifies => exact verifies.uses member
  | clear => cases member

/-- Clients belong to the session at hand, an identity was asked for with a client, and numbers are
given in order. -/
structure Sound (m : Manager) : Prop where
  clients (service : String) (c : Client) :
    m.clients.lookup service = some c → m.session = some c.session
  identity : m.identity ≠ none → ∀ x, Deed.verify.Uses x → m.Has x
  opened (s : Session) : m.session = some s → s.number < m.opened
  made (service : String) (c : Client) : m.clients.lookup service = some c → c.number < m.made

theorem sound_fresh (k : Keys) : Sound { keys := k } :=
  ⟨nofun, fun known => absurd rfl known, nofun, nofun⟩

theorem Opens.sound {s : Session} (h : m.Opens s m' calls) (sound : m.Sound) : m'.Sound := by
  have grows := h.grows
  cases h with
  | kept => exact sound
  | opened none =>
      refine ⟨fun service c known => ?_, fun known x uses => ?_, ?_, sound.made⟩
      · cases none.symm.trans (sound.clients service c known)
      · exact (grows.has x).mpr (.inl (sound.identity known x uses))
      · rintro s ⟨⟩
        exact Nat.lt_succ_self _

theorem Makes.sound {service : String} {c : Client} (h : m.Makes service c m' calls)
    (sound : m.Sound) : m'.Sound := by
  have grows := h.grows
  have identity := h.identity
  cases h with
  | kept => exact sound
  | made none opens =>
      have before := opens.sound sound
      rw [← opens.clients] at none
      refine ⟨fun other c' known => ?_, fun known x uses => ?_, before.opened,
        fun other c' known => ?_⟩
      · rw [lookup_snoc none] at known
        split at known
        · cases known
          exact opens.session
        · exact before.clients other c' known
      · rw [identity] at known
        exact (grows.has x).mpr (.inl (sound.identity known x uses))
      · rw [lookup_snoc none] at known
        split at known
        · cases known
          exact Nat.lt_succ_self _
        · exact Nat.lt_succ_of_lt (before.made other c' known)

theorem Makes.client {service : String} {c : Client} (h : m.Makes service c m' calls) :
    m'.clients.lookup service = some c := by
  cases h with
  | kept known => exact known
  | made none opens =>
      rw [← opens.clients] at none
      rw [lookup_snoc none, if_pos rfl]

theorem Makes.has {service : String} {c : Client} (h : m.Makes service c m' calls)
    (sound : m.Sound) {x : Thing} (uses : x = .session ∨ x = .client service) : m'.Has x := by
  rcases uses with rfl | rfl
  · exact has_session ((h.sound sound).clients service c h.client)
  · exact has_client h.client

theorem Opens.has {s : Session} (h : m.Opens s m' calls) {x : Thing} (there : m.Has x) :
    m'.Has x :=
  (h.grows.has x).mpr (.inl there)

/-- Whatever the service answers, what was needed to ask it is there. -/
theorem Verifies.has {r : Except Fault Identity} (h : m.Verifies r m' calls) (sound : m.Sound)
    {x : Thing} (uses : Deed.verify.Uses x) : m'.Has x := by
  cases h with
  | kept known => exact sound.identity (by rw [known]; exact nofun) x uses
  | refused f _ makes => exact makes.has sound uses
  | answered r _ makes opens => exact opens.has (makes.has sound uses)

theorem Verifies.sound {r : Except Fault Identity} (h : m.Verifies r m' calls) (sound : m.Sound) :
    m'.Sound := by
  have has {x : Thing} : Deed.verify.Uses x → m'.Has x := h.has sound
  cases h with
  | kept => exact sound
  | refused f _ makes => exact makes.sound sound
  | answered r _ makes opens =>
      -- Only the identity differs from what asking has left, and `has` speaks for it.
      have after := opens.sound (makes.sound sound)
      exact ⟨after.clients, fun _ _ uses => has uses, after.opened, after.made⟩

theorem Verifies.remembers {r : Except Fault Identity} (h : m.Verifies r m' calls) {i : Identity}
    (known : m.identity = some i) : m'.identity = some i := by
  cases h with
  | kept => exact known
  | refused _ none | answered _ none => cases known.symm.trans none

namespace Does
variable {x : Deed} {r : Except Fault Gift}

theorem sound (h : m.Does x r m' calls) (sound : m.Sound) : m'.Sound := by
  cases h with
  | session opens => exact opens.sound sound
  | client makes => exact makes.sound sound
  | verified verifies | failed verifies => exact verifies.sound sound
  | clear => exact ⟨nofun, fun known => absurd rfl known, nofun, nofun⟩

theorem has (h : m.Does x r m' calls) (sound : m.Sound) {y : Thing} (uses : x.Uses y) :
    m'.Has y := by
  cases h with
  | session opens =>
      cases uses
      exact has_session opens.session
  | client makes => exact makes.has sound uses
  | verified verifies | failed verifies => exact verifies.has sound uses
  | clear => cases uses

/-- The session that something handed out belongs to is the one at hand. -/
theorem current {g : Gift} (h : m.Does x (.ok g) m' calls) (sound : m.Sound) {s : Session}
    (belongs : g.session? = some s) : m'.session = some s := by
  cases h with
  | session opens =>
      cases belongs
      exact opens.session
  | client makes =>
      cases belongs
      exact (makes.sound sound).clients _ _ makes.client
  | verified | clear => cases belongs

theorem handed {service : String} {c : Client}
    (h : m.Does x (.ok (.client service c)) m' calls) : m'.clients.lookup service = some c := by
  cases h with
  | client makes => exact makes.client

theorem identity {i : Identity} (h : m.Does x (.ok (.identity i)) m' calls) :
    m'.identity = some i := by
  cases h with
  | verified verifies =>
      cases verifies with
      | kept known => exact known
      | answered => rfl

theorem unknown {f : Fault} (h : m.Does x (.error f) m' calls) : m'.identity = none := by
  cases h with
  | failed verifies =>
      cases verifies with
      | refused _ none makes => exact makes.identity.trans none
      | answered => rfl

theorem known (h : m.Does .verify r m' calls) {i : Identity} (known : m.identity = some i) :
    r = .ok (.identity i) ∧ calls = [] := by
  cases h with
  | verified verifies =>
      cases verifies with
      | kept same =>
          cases known.symm.trans same
          exact ⟨rfl, rfl⟩
      | answered _ none => cases known.symm.trans none
  | failed verifies =>
      cases verifies with
      | refused _ none | answered _ none => cases known.symm.trans none

theorem asks (h : m.Does .verify r m' calls) (unknown : m.identity = none) :
    identityCall ∈ calls := by
  cases h with
  | verified verifies =>
      cases verifies with
      | kept same => cases unknown.symm.trans same
      | answered => exact List.mem_append_right _ List.mem_cons_self
  | failed verifies =>
      cases verifies with
      | refused => exact List.mem_append_right _ List.mem_cons_self
      | answered => exact List.mem_append_right _ List.mem_cons_self

theorem remembers (h : m.Does x r m' calls) (kept : x ≠ .clear) {i : Identity}
    (known : m.identity = some i) : m'.identity = some i := by
  cases h with
  | session opens => exact opens.identity.trans known
  | client makes => exact makes.identity.trans known
  | verified verifies | failed verifies => exact verifies.remembers known
  | clear => exact absurd rfl kept

theorem stays_unknown (h : m.Does x r m' calls) (other : x ≠ .verify)
    (unknown : m.identity = none) : m'.identity = none := by
  cases h with
  | session opens => exact opens.identity.trans unknown
  | client makes => exact makes.identity.trans unknown
  | verified | failed => exact absurd rfl other
  | clear => rfl

theorem clears (h : m.Does .clear r m' calls) :
    r = .ok .nothing ∧ (∀ y, ¬m'.Has y) ∧ m'.identity = none := by
  cases h
  refine ⟨rfl, fun y there => ?_, rfl⟩
  cases y <;> exact there rfl

theorem absent (h : m.Does x r m' calls) {y : Thing} (unused : ¬x.Uses y) (absent : ¬m.Has y) :
    ¬m'.Has y := by
  by_cases kept : x = .clear
  · subst kept
    exact h.clears.2.1 y
  · rw [(h.grows kept).has y, not_or]
    exact ⟨absent, fun member => unused (h.uses member)⟩

end Does

/-- Counters go up, and what was not there before has a number that was not given before. -/
structure Advances (m m' : Manager) : Prop where
  opened : m.opened ≤ m'.opened
  made : m.made ≤ m'.made
  session (s : Session) : m'.session = some s → m.session = some s ∨ m.opened ≤ s.number
  client (service : String) (c : Client) : m'.clients.lookup service = some c →
    m.clients.lookup service = some c ∨ m.made ≤ c.number

theorem Advances.refl (m : Manager) : m.Advances m :=
  ⟨Nat.le_refl _, Nat.le_refl _, fun _ => .inl, fun _ _ => .inl⟩

theorem Advances.trans (h : m.Advances m') (h' : m'.Advances m'') : m.Advances m'' where
  opened := Nat.le_trans h.opened h'.opened
  made := Nat.le_trans h.made h'.made
  session s there := by
    rcases h'.session s there with before | late
    · exact h.session s before
    · exact .inr (Nat.le_trans h.opened late)
  client service c there := by
    rcases h'.client service c there with before | late
    · exact h.client service c before
    · exact .inr (Nat.le_trans h.made late)

theorem Opens.advances {s : Session} (h : m.Opens s m' calls) : m.Advances m' := by
  cases h with
  | kept => exact .refl m
  | opened =>
      refine ⟨Nat.le_succ _, Nat.le_refl _, ?_, fun _ _ => .inl⟩
      rintro s ⟨⟩
      exact .inr (Nat.le_refl _)

theorem Makes.advances {service : String} {c : Client} (h : m.Makes service c m' calls) :
    m.Advances m' := by
  cases h with
  | kept => exact .refl m
  | made none opens =>
      refine opens.advances.trans ⟨Nat.le_refl _, Nat.le_succ _, fun _ => .inl, ?_⟩
      intro other c' there
      rw [← opens.clients] at none
      rw [lookup_snoc none] at there
      split at there
      · cases there
        exact .inr (Nat.le_refl _)
      · exact .inl there

theorem Advances.remember (h : m.Advances m') (i : Option Identity) :
    m.Advances { m' with identity := i } := ⟨h.opened, h.made, h.session, h.client⟩

theorem Verifies.advances {r : Except Fault Identity} (h : m.Verifies r m' calls) :
    m.Advances m' := by
  cases h with
  | kept => exact .refl m
  | refused _ _ makes => exact makes.advances
  | answered r _ makes opens => exact (makes.advances.trans opens.advances).remember r.toOption

theorem Does.advances {x : Deed} {r : Except Fault Gift} (h : m.Does x r m' calls) :
    m.Advances m' := by
  cases h with
  | session opens => exact opens.advances
  | client makes => exact makes.advances
  | verified verifies | failed verifies => exact verifies.advances
  | clear => exact ⟨Nat.le_refl _, Nat.le_refl _, nofun, nofun⟩

end Manager

end Aws
end Dismantle
