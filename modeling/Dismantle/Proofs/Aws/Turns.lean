import Dismantle.Proofs.Aws.Caches
/-! Any deeds in any order: sessions and clients are made once between two clearings, and what a
manager hands out stays the same until then. -/
namespace Dismantle.Aws

/-- A deed that was done, with the calls that were made meanwhile. -/
structure Turn where
  before : Desk
  deed : Deed
  result : Except Fault Gift
  after : Desk

def turns : List Deed → Desk → List Turn
  | [], _ => []
  | x :: xs, d => ⟨d, x, (x.perform d).1, (x.perform d).2⟩ :: turns xs (x.perform d).2

namespace Turn

def calls (t : Turn) : List CloudCall :=
  t.after.host.cloud.calls.drop t.before.host.cloud.calls.length

def made (t : Turn) : List Thing := thingsOf t.calls

def Done (t : Turn) : Prop := t.before.manager.Does t.deed t.result t.after.manager t.calls

theorem done_perform (x : Deed) (d : Desk) : Done ⟨d, x, (x.perform d).1, (x.perform d).2⟩ := by
  obtain ⟨calls, recorded, does⟩ := Desk.perform_comes x d
  have same : (x.perform d).2.host.cloud.calls.drop d.host.cloud.calls.length = calls := by
    rw [recorded, List.drop_left]
  rwa [← same] at does

end Turn

/-- Turns that lead a manager from one state to another. -/
inductive Leads : Manager → List Turn → Manager → Prop where
  | nil {m : Manager} : Leads m [] m
  | cons {t : Turn} {ts : List Turn} {m : Manager} :
      t.Done → Leads t.after.manager ts m → Leads t.before.manager (t :: ts) m

theorem turns_lead (xs : List Deed) (d : Desk) : ∃ m, Leads d.manager (turns xs d) m := by
  induction xs generalizing d with
  | nil => exact ⟨_, .nil⟩
  | cons x xs ih =>
      obtain ⟨m, leads⟩ := ih (x.perform d).2
      exact ⟨m, .cons (Turn.done_perform x d) leads⟩

def Unbroken (ts : List Turn) : Prop := ∀ t ∈ ts, t.deed ≠ .clear

namespace Leads
variable {m m' : Manager} {ts : List Turn}

theorem cut {a b : List Turn} (h : Leads m (a ++ b) m') : ∃ m₁, Leads m a m₁ ∧ Leads m₁ b m' := by
  generalize whole : a ++ b = ts at h
  induction h generalizing a with
  | nil =>
      obtain ⟨rfl, rfl⟩ := List.append_eq_nil_iff.mp whole
      exact ⟨_, .nil, .nil⟩
  | cons done leads ih =>
      cases a with
      | nil =>
          cases whole
          exact ⟨_, .nil, .cons done leads⟩
      | cons t a =>
          cases whole
          obtain ⟨m₁, front, back⟩ := ih rfl
          exact ⟨m₁, .cons done front, back⟩

theorem sound (h : Leads m ts m') (sound : m.Sound) : m'.Sound := by
  induction h with
  | nil => exact sound
  | cons done _ ih => exact ih (Manager.Does.sound done sound)

theorem advances (h : Leads m ts m') : m.Advances m' := by
  induction h with
  | nil => exact .refl _
  | cons done _ ih => exact (Manager.Does.advances done).trans ih

theorem grows (h : Leads m ts m') (unbroken : Unbroken ts) : m.Grows (ts.flatMap (·.made)) m' := by
  induction h with
  | nil => exact .refl _
  | cons done _ ih =>
      obtain ⟨kept, unbroken⟩ := List.forall_mem_cons.mp unbroken
      exact (Manager.Does.grows done kept).trans (ih unbroken)

theorem remembers (h : Leads m ts m') (unbroken : Unbroken ts) {i : Identity}
    (known : m.identity = some i) : m'.identity = some i := by
  induction h with
  | nil => exact known
  | cons done _ ih =>
      obtain ⟨kept, unbroken⟩ := List.forall_mem_cons.mp unbroken
      exact ih unbroken (Manager.Does.remembers done kept known)

theorem stays_unknown (h : Leads m ts m') (other : ∀ t ∈ ts, t.deed ≠ .verify)
    (unknown : m.identity = none) : m'.identity = none := by
  induction h with
  | nil => exact unknown
  | cons done _ ih =>
      obtain ⟨first, others⟩ := List.forall_mem_cons.mp other
      exact ih others (Manager.Does.stays_unknown done first unknown)

theorem absent (h : Leads m ts m') {x : Thing} (unused : ∀ t ∈ ts, ¬t.deed.Uses x)
    (absent : ¬m.Has x) : ¬m'.Has x := by
  induction h with
  | nil => exact absent
  | cons done _ ih =>
      obtain ⟨first, others⟩ := List.forall_mem_cons.mp unused
      exact ih others (Manager.Does.absent done first absent)

end Leads

/-- A turn `t'` comes after `t`, with the turns `b` between them. -/
def Spaced (ts : List Turn) (t : Turn) (b : List Turn) (t' : Turn) : Prop :=
  ∃ a c, ts = a ++ t :: b ++ t' :: c

/-- Two turns that were done, and how the turns between them lead from one to the other. -/
structure Around (t : Turn) (b : List Turn) (t' : Turn) : Prop where
  sound : t.before.manager.Sound
  first : t.Done
  between : Leads t.after.manager b t'.before.manager
  second : t'.Done

theorem Spaced.around {m m' : Manager} {ts b : List Turn} {t t' : Turn} (h : Spaced ts t b t')
    (leads : Leads m ts m') (sound : m.Sound) : Around t b t' := by
  obtain ⟨a, c, rfl⟩ := h
  obtain ⟨_, front, back⟩ := leads.cut
  obtain ⟨_, before, middle⟩ := front.cut
  cases middle with
  | cons first between =>
      cases back with
      | cons second _ => exact ⟨before.sound sound, first, between, second⟩

/-- What two gifts have in common is the same: the session that they belong to, and the client if
both are the client of one service. -/
structure Gift.Agrees (g g' : Gift) : Prop where
  session (s s' : Session) : g.session? = some s → g'.session? = some s' → s' = s
  client (service : String) (c c' : Client) :
    g = .client service c → g' = .client service c' → c' = c

/-- Two gifts have neither a session nor a client in common. -/
structure Gift.Differs (g g' : Gift) : Prop where
  session (s s' : Session) : g.session? = some s → g'.session? = some s' → s' ≠ s
  client (service service' : String) (c c' : Client) :
    g = .client service c → g' = .client service' c' → c' ≠ c

namespace Around
variable {b : List Turn} {t t' : Turn} {g g' : Gift}

theorem sound_after (h : Around t b t') : t.after.manager.Sound :=
  Manager.Does.sound h.first h.sound

theorem sound_before (h : Around t b t') : t'.before.manager.Sound :=
  h.between.sound h.sound_after

theorem agrees (h : Around t b t') (unbroken : Unbroken b) (first : t.result = .ok g)
    (second : t'.result = .ok g') : g.Agrees g' := by
  have done := h.first
  have done' := h.second
  rw [Turn.Done, first] at done
  rw [Turn.Done, second] at done'
  have between := h.between.grows unbroken
  by_cases clear : t'.deed = .clear
  · rw [clear] at done'
    cases done'.clears.1
    exact ⟨nofun, nofun⟩
  · have after := done'.grows clear
    refine ⟨fun s s' belongs belongs' => ?_, ?_⟩
    · have here := after.session s (between.session s (done.current h.sound belongs))
      have there := done'.current h.sound_before belongs'
      exact Option.some.inj (there.symm.trans here)
    · rintro service c c' rfl rfl
      have here := after.client service c (between.client service c done.handed)
      exact Option.some.inj (done'.handed.symm.trans here)

theorem verified (h : Around t b t') (unbroken : Unbroken b) {i : Identity}
    (first : t.result = .ok (.identity i)) (again : t'.deed = .verify) :
    t'.result = .ok (.identity i) ∧ t'.calls = [] := by
  have done := h.first
  have done' := h.second
  rw [Turn.Done, first] at done
  rw [Turn.Done, again] at done'
  exact done'.known (h.between.remembers unbroken done.identity)

/-- Whoever finds no identity, and nobody has asked since, asks. -/
theorem asks (h : Around t b t') (unknown : t.after.manager.identity = none)
    (unasked : ∀ u ∈ b, u.deed ≠ .verify) (again : t'.deed = .verify) :
    identityCall ∈ t'.calls := by
  have done' := h.second
  rw [Turn.Done, again] at done'
  exact done'.asks (h.between.stays_unknown unasked unknown)

theorem renewed (h : Around t b t') (clear : t.deed = .clear) {x : Thing}
    (unused : ∀ u ∈ b, ¬u.deed.Uses x) (uses : t'.deed.Uses x) : x ∈ t'.made := by
  have done := h.first
  rw [Turn.Done, clear] at done
  have absent := h.between.absent unused (done.clears.2.1 x)
  have kept : t'.deed ≠ .clear := fun clear => by
    rw [clear] at uses
    exact uses
  have there := Manager.Does.has h.second h.sound_before uses
  exact (((Manager.Does.grows h.second kept).has x).mp there).resolve_left absent

/-- What is handed out after a clearing has a later number than what was handed out before. -/
theorem differs (h : Around t b t') (broken : ∃ u ∈ b, u.deed = .clear)
    (first : t.result = .ok g) (second : t'.result = .ok g') : g.Differs g' := by
  -- The clearing parts the numbers: below its counters lies all that was handed out before it, and
  -- nothing that is handed out after it.
  obtain ⟨u, member, clear⟩ := broken
  obtain ⟨b₁, b₂, rfl⟩ := List.append_of_mem member
  obtain ⟨_, before, middle⟩ := h.between.cut
  have sound := h.sound_after
  have sound' := h.sound_before
  have done := h.first
  have done' := h.second
  rw [Turn.Done, first] at done
  rw [Turn.Done, second] at done'
  cases middle with
  | cons cleared between =>
      have early := before.advances.trans cleared.advances
      rw [Turn.Done, clear] at cleared
      have late := between.advances.trans done'.advances
      have absent := cleared.clears.2.1
      refine ⟨fun s s' belongs belongs' same => ?_, ?_⟩
      · subst same
        have here := sound.opened s' (done.current h.sound belongs)
        rcases late.session s' (done'.current sound' belongs') with there | later
        · exact absent .session (Manager.has_session there)
        · exact absurd (Nat.lt_of_lt_of_le here (Nat.le_trans early.opened later)) (Nat.lt_irrefl _)
      · rintro service service' c c' rfl rfl same
        subst same
        have here := sound.made service c' done.handed
        rcases late.client service' c' done'.handed with there | later
        · exact absent (.client service') (Manager.has_client there)
        · exact absurd (Nat.lt_of_lt_of_le here (Nat.le_trans early.made later)) (Nat.lt_irrefl _)

end Around

/-- What a manager has made and learned is used until it is cleared, and no longer. -/
structure Consistent (ts : List Turn) : Prop where
  /-- Between two clearings one session is made at most, and one client of each service. -/
  once {b : List Turn} : b <:+: ts → Unbroken b → (b.flatMap (·.made)).Nodup
  /-- Every client was made from the session at hand. -/
  current {t : Turn} : t ∈ ts → ∀ g s, t.result = .ok g → g.session? = some s →
    t.after.manager.session = some s
  same {t t' : Turn} {b : List Turn} : Spaced ts t b t' → Unbroken b →
    ∀ g g', t.result = .ok g → t'.result = .ok g' → g.Agrees g'
  verified {t t' : Turn} {b : List Turn} : Spaced ts t b t' → Unbroken b →
    ∀ i, t.result = .ok (.identity i) → t'.deed = .verify →
      t'.result = .ok (.identity i) ∧ t'.calls = []
  failed {t : Turn} : t ∈ ts → ∀ f, t.result = .error f → t.after.manager.identity = none
  retried {t t' : Turn} {b : List Turn} : Spaced ts t b t' → (∀ u ∈ b, u.deed ≠ .verify) →
    ∀ f, t.result = .error f → t'.deed = .verify → identityCall ∈ t'.calls
  /-- What is needed first after a clearing is made anew, and the identity is asked for. -/
  renewed {t t' : Turn} {b : List Turn} : Spaced ts t b t' → t.deed = .clear →
    (∀ x, (∀ u ∈ b, ¬u.deed.Uses x) → t'.deed.Uses x → x ∈ t'.made) ∧
      ((∀ u ∈ b, u.deed ≠ .verify) → t'.deed = .verify → identityCall ∈ t'.calls)
  unseen {t t' : Turn} {b : List Turn} : Spaced ts t b t' → (∃ u ∈ b, u.deed = .clear) →
    ∀ g g', t.result = .ok g → t'.result = .ok g' → g.Differs g'

theorem Leads.done {m m' : Manager} {ts : List Turn} (h : Leads m ts m') (sound : m.Sound)
    {t : Turn} (member : t ∈ ts) : t.before.manager.Sound ∧ t.Done := by
  obtain ⟨a, c, rfl⟩ := List.append_of_mem member
  obtain ⟨_, front, back⟩ := h.cut
  cases back with
  | cons done _ => exact ⟨front.sound sound, done⟩

theorem Leads.consistent {m m' : Manager} {ts : List Turn} (h : Leads m ts m') (sound : m.Sound) :
    Consistent ts where
  once := by
    rintro b ⟨a, c, rfl⟩ unbroken
    obtain ⟨_, front, -⟩ := h.cut
    obtain ⟨_, -, middle⟩ := front.cut
    exact (middle.grows unbroken).nodup
  current member g s result belongs := by
    obtain ⟨sound, done⟩ := h.done sound member
    rw [Turn.Done, result] at done
    exact done.current sound belongs
  same spaced unbroken _ _ := (spaced.around h sound).agrees unbroken
  verified spaced unbroken _ := (spaced.around h sound).verified unbroken
  failed member f result := by
    obtain ⟨-, done⟩ := h.done sound member
    rw [Turn.Done, result] at done
    exact done.unknown
  retried spaced unasked f result := by
    have around := spaced.around h sound
    have done := around.first
    rw [Turn.Done, result] at done
    exact around.asks done.unknown unasked
  renewed spaced clear := by
    have around := spaced.around h sound
    have done := around.first
    rw [Turn.Done, clear] at done
    exact ⟨fun x => around.renewed clear, around.asks done.clears.2.2⟩
  unseen spaced broken _ _ := (spaced.around h sound).differs broken

/-- A new manager stays consistent, whatever is asked of it and whatever the service answers. -/
theorem turns_consistent (k : Keys) (h : Host) (xs : List Deed) :
    Consistent (turns xs { host := h, manager := { keys := k } }) := by
  obtain ⟨m, leads⟩ := turns_lead xs { host := h, manager := { keys := k } }
  exact leads.consistent (Manager.sound_fresh k)

end Dismantle.Aws
