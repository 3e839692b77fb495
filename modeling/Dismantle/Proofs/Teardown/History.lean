import Dismantle.Teardown.Task
/-! Histories: the calls that carrying a program out makes, each with what it gave, and what holds
of a program whatever its calls give. -/
namespace Dismantle.Teardown

/-- A call that has ended. -/
structure Exchange where
  call : Call
  answer : Except Fault call.Answer

namespace Program
variable {α β σ : Type}

/-- The calls that carrying a program out makes, in order. -/
def history (h : Handler σ) : Program α → σ → List Exchange
  | .done _, _ => []
  | .log r next, s => next.history h (h.log r s)
  | .call tags c next, s =>
    let (answer, s) := h.answer tags c s
    ⟨c, answer⟩ :: (next answer).history h s

/-- Whatever its calls give, a program's history and its result satisfy `Q`. -/
def Ensures : Program α → (List Exchange → α → Prop) → Prop
  | .done a, Q => Q [] a
  | .log _ next, Q => next.Ensures Q
  | .call _ c next, Q => ∀ answer, (next answer).Ensures fun es => Q (⟨c, answer⟩ :: es)

theorem ensures_of_forall (p : Program α) {Q : List Exchange → α → Prop} (h : ∀ es a, Q es a) :
    p.Ensures Q := by
  induction p generalizing Q with
  | done a => exact h [] a
  | log r next ih => exact ih h
  | call tags c next ih => exact fun answer => ih answer fun es => h (⟨c, answer⟩ :: es)

theorem Ensures.mono {p : Program α} {Q R : List Exchange → α → Prop} (hp : p.Ensures Q)
    (h : ∀ es a, Q es a → R es a) : p.Ensures R := by
  induction p generalizing Q R with
  | done a => exact h [] a hp
  | log r next ih => exact ih hp h
  | call tags c next ih =>
      intro answer
      exact ih answer (hp answer) fun es a => h (⟨c, answer⟩ :: es) a

theorem ensures_bind (p : Program α) (f : α → Program β) (Q : List Exchange → β → Prop) :
    (p.bind f).Ensures Q ↔ p.Ensures fun es a => (f a).Ensures fun es' => Q (es ++ es') := by
  induction p generalizing Q with
  | done a => rfl
  | log r next ih => exact ih Q
  | call tags c next ih =>
      simp only [bind, Ensures, List.cons_append]
      exact forall_congr' fun answer => ih answer _

theorem Ensures.performed {p : Program α} {Q : List Exchange → α → Prop} (hp : p.Ensures Q)
    (h : Handler σ) (s : σ) : Q (p.history h s) (p.perform h s).1 := by
  induction p generalizing Q s with
  | done a => exact hp
  | log r next ih => exact ih hp (h.log r s)
  | call tags c next ih => exact ih _ (hp (h.answer tags c s).1) (h.answer tags c s).2

end Program

namespace Task
variable {α β : Type}

/-- Whatever its calls give, a task that starts from `p` makes calls, ends and leaves progress as
`Q` says. -/
def Ensures (t : Task α) (p : Progress) (Q : List Exchange → Except Fault α → Progress → Prop) :
    Prop :=
  (t p).Ensures fun es a => Q es a.1 a.2

variable {p : Progress} {Q : List Exchange → Except Fault α → Progress → Prop}

theorem Ensures.mono {t : Task α} {R : List Exchange → Except Fault α → Progress → Prop}
    (ht : t.Ensures p Q) (h : ∀ es r p', Q es r p' → R es r p') : t.Ensures p R :=
  Program.Ensures.mono ht fun es a => h es a.1 a.2

theorem ensures_of_forall (t : Task α) (h : ∀ es r p', Q es r p') : t.Ensures p Q :=
  (t p).ensures_of_forall fun es a => h es a.1 a.2

@[simp] theorem ensures_pure (a : α) : (pure a : Task α).Ensures p Q ↔ Q [] (.ok a) p := Iff.rfl

/-- The second task starts where the first has succeeded; a fault of the first is the end. -/
theorem ensures_bind (t : Task α) (f : α → Task β)
    {Q : List Exchange → Except Fault β → Progress → Prop} :
    (t >>= f).Ensures p Q ↔ t.Ensures p fun es r p' => match r with
      | .ok a => (f a).Ensures p' fun es' => Q (es ++ es')
      | .error g => Q es (.error g) p' := by
  unfold Ensures
  rw [bind_apply, Program.ensures_bind]
  constructor
  · intro h
    refine h.mono ?_
    rintro es ⟨g | a, p'⟩ after
    · simpa only [Program.Ensures, List.append_nil] using after
    · exact after
  · intro h
    refine h.mono ?_
    rintro es ⟨g | a, p'⟩ after
    · simpa only [Program.Ensures, List.append_nil] using after
    · exact after

theorem fail_bind (f : Fault) (g : α → Task β) : (fail f : Task α) >>= g = fail f := rfl

@[simp] theorem ensures_fail (g : Fault) : (fail g : Task α).Ensures p Q ↔ Q [] (.error g) p :=
  Iff.rfl

@[simp] theorem ensures_ofExcept (r : Except Fault α) : (ofExcept r).Ensures p Q ↔ Q [] r p :=
  Iff.rfl

@[simp] theorem ensures_attempt (t : Task α)
    {Q : List Exchange → Except Fault (Except Fault α) → Progress → Prop} :
    t.attempt.Ensures p Q ↔ t.Ensures p fun es r => Q es (.ok r) := by
  unfold attempt Ensures
  rw [Program.ensures_bind]
  simp only [Program.Ensures, List.append_nil]

@[simp] theorem ensures_ask (c : Call)
    {Q : List Exchange → Except Fault c.Answer → Progress → Prop} :
    (ask c).Ensures p Q ↔ ∀ answer, Q [⟨c, answer⟩] answer p := Iff.rfl

@[simp] theorem ensures_tell (c : Call) {Q : List Exchange → Except Fault Unit → Progress → Prop} :
    (tell c).Ensures p Q ↔ ∀ answer, Q [⟨c, answer⟩] (answer.map fun _ => ()) p := Iff.rfl

@[simp] theorem ensures_log (level : Log.Level) (logger message : String)
    {Q : List Exchange → Except Fault Unit → Progress → Prop} :
    (log level logger message).Ensures p Q ↔ Q [] (.ok ()) p := Iff.rfl

@[simp] theorem ensures_env {Q : List Exchange → Except Fault Environment → Progress → Prop} :
    env.Ensures p Q ↔ Q [] (.ok p.env) p := Iff.rfl

@[simp] theorem ensures_saved {Q : List Exchange → Except Fault Nat → Progress → Prop} :
    saved.Ensures p Q ↔ Q [] (.ok p.saved) p := Iff.rfl

@[simp] theorem ensures_change (f : Environment → Environment)
    {Q : List Exchange → Except Fault Unit → Progress → Prop} :
    (change f).Ensures p Q ↔ Q [] (.ok ()) { p with env := f p.env } := Iff.rfl

@[simp] theorem ensures_within (tags : Log.Tags) (t : Task α) :
    (within tags t).Ensures p Q ↔ t.Ensures { p with tags := tags.within p.tags }
      fun es r p' => Q es r { p' with tags := p.tags } := by
  unfold within Ensures
  rw [Program.ensures_bind]
  simp only [Program.Ensures, List.append_nil]

/-- A checkpoint is one saving of the record as it stands; it counts if the saving succeeds. -/
theorem ensures_checkpoint (label : String)
    {Q : List Exchange → Except Fault Unit → Progress → Prop} :
    (checkpoint label).Ensures p Q ↔
      Q [⟨.save p.env, .ok ()⟩] (.ok ()) { p with saved := p.saved + 1 } ∧
        ∀ g, Q [⟨.save p.env, .error g⟩] (.error g) p := by
  constructor
  · intro h
    exact ⟨h (.ok ()), fun g => h (.error g)⟩
  · rintro ⟨saves, fails⟩ (g | _)
    · exact fails g
    · exact saves

theorem ensures_checkpointThenFail (label : String) (f : Fault) :
    (checkpointThenFail label f : Task α).Ensures p Q ↔
      Q [⟨.save p.env, .ok ()⟩] (.error f) { p with saved := p.saved + 1 } ∧
        ∀ g, Q [⟨.save p.env, .error g⟩] (.error (.several [f, g])) p := by
  unfold checkpointThenFail
  simp only [ensures_bind, ensures_attempt, ensures_checkpoint, ensures_fail, List.append_nil]

end Task
end Dismantle.Teardown
