import Dismantle.Teardown.Rehearsal
import Dismantle.Teardown.Task
/-! Programs that cannot be told apart. Two programs are alike if, given the same answers, they log
the same, make calls that show the same, and end alike. What a call shows leaves out everything
that is to be kept secret. -/
namespace Dismantle

namespace Environment

def shown (e : Environment) : Environment :=
  { version := e.version, provider := e.provider, envId := e.envId, stack := e.stack }

/-- Two records that the checks before a teardown cannot tell apart. -/
structure Alike (e e' : Environment) : Prop where
  version : e.version = e'.version
  provider : e.provider = e'.provider
  envId : e.envId = e'.envId
  stack : e.stack = e'.stack
  director : e.director.name = e'.director.name
  empty : e.isEmpty = e'.isEmpty
  directorless : e.director.isEmpty = e'.director.isEmpty

variable {e e' : Environment}

theorem Alike.shown_eq (h : e.Alike e') : e.shown = e'.shown := by
  rw [shown, shown, h.version, h.provider, h.envId, h.stack]

theorem shown_eq_iff : e.shown = e'.shown ↔ e.version = e'.version ∧ e.provider = e'.provider ∧
    e.envId = e'.envId ∧ e.stack = e'.stack := by
  simp only [shown, mk.injEq, and_true, true_and]

end Environment

namespace Teardown

def Call.shown : Call → Call
  | .validateRecord e => .validateRecord e.shown
  | .validateAws _ => .validateAws {}
  | .validateGcp _ => .validateGcp {}
  | .deleteDirector e => .deleteDirector e.shown
  | .deleteAwsKeyPair _ => .deleteAwsKeyPair ""
  | .terraformOutputs e => .terraformOutputs e.shown
  | .terraformDestroy _ => .terraformDestroy ⟨"", "", "", "", "", "", ""⟩
  | .deleteGcpKeyPair _ => .deleteGcpKeyPair ""
  | .save e => .save e.shown
  | c => c

theorem Call.answer_shown (c : Call) : c.shown.Answer = c.Answer := by
  cases c <;> rfl

theorem Call.answer_eq {c d : Call} (same : c.shown = d.shown) : c.Answer = d.Answer := by
  rw [← c.answer_shown, same, d.answer_shown]

namespace Program
variable {α β : Type}

/-- Given the same answers, two programs log the same, make calls that show the same, and end as `R`
relates. -/
def Alike (R : α → α → Prop) : Program α → Program α → Prop
  | .done a, .done b => R a b
  | .log r next, .log r' next' => r = r' ∧ next.Alike R next'
  | .call tags c next, .call tags' d next' => tags = tags' ∧ c.shown = d.shown ∧
      ∀ x y, HEq x y → (next x).Alike R (next' y)
  | _, _ => False

variable {R : α → α → Prop} {S : β → β → Prop}

theorem Alike.bind {p q : Program α} {f g : α → Program β} (h : p.Alike R q)
    (hf : ∀ a b, R a b → (f a).Alike S (g b)) : (p.bind f).Alike S (q.bind g) := by
  induction p generalizing q with
  | done a =>
      cases q with
      | done b => exact hf a b h
      | _ => exact h.elim
  | log r next ih =>
      cases q with
      | log r' next' => exact ⟨h.1, ih h.2⟩
      | _ => exact h.elim
  | call tags c next ih =>
      cases q with
      | call tags' d next' =>
          obtain ⟨same, shown, continued⟩ := h
          exact ⟨same, shown, fun x y answers => ih x (continued x y answers)⟩
      | _ => exact h.elim

end Program

theorem Program.Alike.mono {α : Type} {R S : α → α → Prop} {p q : Program α} (h : p.Alike R q)
    (imp : ∀ a b, R a b → S a b) : p.Alike S q := by
  rw [← Program.bind_done p, ← Program.bind_done q]
  exact h.bind imp

/-- A handler that sees of a call what the call shows. States that `S` relates give the same answers
to calls that show the same, and are related from then on. -/
structure Handler.Blind {σ : Type} (h : Handler σ) (S : σ → σ → Prop) : Prop where
  log : ∀ r s t, S s t → S (h.log r s) (h.log r t)
  answer : ∀ tags c d s t, c.shown = d.shown → S s t →
    HEq (h.answer tags c s).1 (h.answer tags d t).1 ∧ S (h.answer tags c s).2 (h.answer tags d t).2

/-- Whoever is blind to what calls do not show carries out programs that are alike alike. -/
theorem Program.Alike.perform {α σ : Type} {R : α → α → Prop} {S : σ → σ → Prop} {h : Handler σ}
    (blind : h.Blind S) {p q : Program α} (alike : p.Alike R q) {s t : σ} (related : S s t) :
    R (p.perform h s).1 (q.perform h t).1 ∧ S (p.perform h s).2 (q.perform h t).2 := by
  induction p generalizing q s t with
  | done a =>
      cases q with
      | done b => exact ⟨alike, related⟩
      | _ => exact alike.elim
  | log r next ih =>
      cases q with
      | log r' next' =>
          obtain ⟨rfl, continued⟩ := alike
          exact ih continued (blind.log r s t related)
      | _ => exact alike.elim
  | call tags c next ih =>
      cases q with
      | call tags' d next' =>
          obtain ⟨rfl, shown, continued⟩ := alike
          obtain ⟨answers, onwards⟩ := blind.answer tags c d s t shown related
          exact ih _ (continued _ _ answers) onwards
      | _ => exact alike.elim

/-- How much two records have in common. -/
inductive Likeness where
  /-- All that is checked. -/
  | checked
  /-- What is shown of them. -/
  | shown

def Likeness.Holds : Likeness → Environment → Environment → Prop
  | .checked, e, e' => e.Alike e'
  | .shown, e, e' => e.shown = e'.shown

theorem Likeness.Holds.shown {k : Likeness} {e e' : Environment} (h : k.Holds e e') :
    e.shown = e'.shown := by
  cases k with
  | checked => exact h.shown_eq
  | shown => exact h

/-- Progress with records that have so much in common. -/
structure Progress.Alike (k : Likeness) (p q : Progress) : Prop where
  env : k.Holds p.env q.env
  saved : p.saved = q.saved
  tags : p.tags = q.tags

theorem Progress.Alike.shown {k : Likeness} {p q : Progress} (h : p.Alike k q) : p.Alike .shown q :=
  ⟨h.env.shown, h.saved, h.tags⟩

namespace Task
variable {α β : Type} {k l m : Likeness}

/-- Two tasks have ended with the same result. After a fault the records still show the same. -/
structure Ended (l : Likeness) (a b : Except Fault α × Progress) : Prop where
  result : a.1 = b.1
  progress : a.2.Alike (match a.1 with | .ok _ => l | .error _ => .shown) b.2

/-- From records that have `k` in common the tasks are alike, and leave records with `l` in common. -/
def Alike (k l : Likeness) (t u : Task α) : Prop :=
  ∀ p q, p.Alike k q → (t p).Alike (Ended l) (u q)

theorem Ended.ok {a : α} {p q : Progress} (h : p.Alike l q) : Ended l (.ok a, p) (.ok a, q) := ⟨rfl, h⟩

theorem Ended.error {f : Fault} {p q : Progress} (h : p.Alike k q) :
    Ended (α := α) l (.error f, p) (.error f, q) := ⟨rfl, h.shown⟩

theorem Ended.same {r : Except Fault α} {p q : Progress} (h : p.Alike l q) :
    Ended l (r, p) (r, q) := by
  cases r with
  | ok a => exact .ok h
  | error f => exact .error h

namespace Alike

theorem bind {t u : Task α} {f g : α → Task β} (h : t.Alike k l u)
    (hf : ∀ a, (f a).Alike l m (g a)) : (t >>= f).Alike k m (u >>= g) := by
  intro p q start
  refine (h p q start).bind ?_
  rintro ⟨r, p'⟩ ⟨r', q'⟩ ⟨rfl, after⟩
  cases r with
  | ok a => exact hf a p' q' after
  | error f => exact Ended.error after

theorem pure (a : α) : (pure a : Task α).Alike k k (pure a) := fun _ _ h => Ended.ok h

theorem fail (f : Fault) : (Task.fail f : Task α).Alike k l (Task.fail f) :=
  fun _ _ h => Ended.error h

theorem ofExcept (r : Except Fault α) : (Task.ofExcept r).Alike k k (Task.ofExcept r) :=
  fun _ _ h => Ended.same h

theorem shown {t u : Task α} (h : t.Alike k l u) : t.Alike k .shown u := by
  intro p q start
  refine (h p q start).mono ?_
  rintro ⟨r, p'⟩ ⟨r', q'⟩ ⟨rfl, after⟩
  exact Ended.same after.shown

theorem attempt {t u : Task α} (h : t.Alike k l u) : t.attempt.Alike k .shown u.attempt := by
  intro p q start
  refine (h p q start).bind ?_
  rintro ⟨r, p'⟩ ⟨r', q'⟩ ⟨rfl, after⟩
  exact Ended.ok after.shown

theorem log (level : Log.Level) (logger message : String) :
    (Task.log level logger message).Alike k k (Task.log level logger message) := by
  intro p q h
  refine ⟨?_, Ended.ok h⟩
  rw [h.tags]

theorem saved : Task.saved.Alike k k Task.saved := by
  intro p q h
  exact ⟨congrArg Except.ok h.saved, h⟩

theorem env_bind {f g : Environment → Task β}
    (h : ∀ e e', k.Holds e e' → (f e).Alike k l (g e')) :
    (Task.env >>= f).Alike k l (Task.env >>= g) :=
  fun p q start => h p.env q.env start.env p q start

theorem change {f g : Environment → Environment} (h : ∀ e e', k.Holds e e' → l.Holds (f e) (g e')) :
    (Task.change f).Alike k l (Task.change g) :=
  fun p q start => Ended.ok ⟨h p.env q.env start.env, start.saved, start.tags⟩

theorem map_answer {γ δ : Type} (same : γ = δ) {x : Except Fault γ} {y : Except Fault δ}
    (answers : HEq x y) : (x.map fun _ => ()) = y.map fun _ => () := by
  subst same
  cases answers
  rfl

theorem tell {c d : Call} (shown : c.shown = d.shown) : (Task.tell c).Alike k k (Task.tell d) := by
  intro p q h
  refine ⟨h.tags, shown, fun x y answers => ?_⟩
  dsimp only
  rw [map_answer (Call.answer_eq shown) answers]
  exact Ended.same h

theorem ask (c : Call) : (Task.ask c).Alike k k (Task.ask c) := by
  intro p q h
  refine ⟨h.tags, rfl, fun x y answers => ?_⟩
  cases answers
  exact Ended.same h

theorem within (tags : Log.Tags) {t u : Task α} (h : t.Alike k l u) :
    (Task.within tags t).Alike k l (Task.within tags u) := by
  intro p q start
  have inside : Progress.Alike k { p with tags := tags.within p.tags }
      { q with tags := tags.within q.tags } := ⟨start.env, start.saved, by rw [start.tags]⟩
  refine (h _ _ inside).bind ?_
  rintro ⟨r, p'⟩ ⟨r', q'⟩ ⟨rfl, after⟩
  exact ⟨rfl, after.env, after.saved, start.tags⟩

end Alike
end Task
end Teardown
end Dismantle
