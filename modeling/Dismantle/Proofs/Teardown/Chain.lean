import Dismantle.Proofs.Teardown.Orderly
import Dismantle.Proofs.Teardown.Rehearsal
/-! Runs one after another: each starts from the record that was saved last, whatever the ones
before have met with. -/
namespace Dismantle.Teardown

/-- The history of a run that starts from `e`, whoever answers its calls. -/
def IsRun (e : Environment) (es : List Exchange) : Prop :=
  ∃ (σ : Type) (h : Handler σ) (s : σ) (supported : List Provider) (arguments : List String)
    (p : Progress), p.env = e ∧ es = (run supported arguments p).history h s

/-- The histories of runs of which the first starts from `e`, and the record saved last by then. -/
inductive Chain : Environment → List (List Exchange) → Environment → Prop where
  | nil (e : Environment) : Chain e [] e
  | cons {e k : Environment} {es : List Exchange} {runs : List (List Exchange)} :
      IsRun e es → Chain (kept e es) runs k → Chain e (es :: runs) k

theorem IsRun.course {e : Environment} {es : List Exchange} (h : IsRun e es) :
    ∃ z, Course (.level e) es z := by
  obtain ⟨σ, h, s, supported, arguments, p, rfl, rfl⟩ := h
  obtain ⟨z, course, _⟩ := run_course h s supported arguments p
  exact ⟨z, course⟩

theorem isRun_rehearsed (script : Script) (e : Environment) : IsRun e (rehearsed script e) :=
  ⟨Stage, Stage.handler script, { kept := e }, Provider.all, ["-n"], { env := e }, rfl, rfl⟩

theorem Chain.cut {e k : Environment} {runs runs' : List (List Exchange)}
    (h : Chain e (runs ++ runs') k) : ∃ e', Chain e runs e' ∧ Chain e' runs' k := by
  induction runs generalizing e with
  | nil => exact ⟨e, .nil e, h⟩
  | cons es runs ih =>
      cases h with
      | cons isRun rest =>
          obtain ⟨e', first, last⟩ := ih rest
          exact ⟨e', .cons isRun first, last⟩

variable {I : Environment → Prop}

/-- A fact about records that no exchange changes, as long as its call is due. -/
def Lasting (I : Environment → Prop) : Prop :=
  ∀ (e : Environment) (x : Exchange), I e → x.call.Due e → I (x.applied e)

theorem Move.lasting {a b : Standing} {x : Exchange} (h : Move a x b)
    (stays : I a.known → I (x.applied a.known)) (known : I a.known) (kept : I a.kept) :
    I b.known ∧ I b.kept := by
  constructor
  · rw [h.known]
    exact stays known
  · cases h with
    | saved => exact known
    | savedLast => exact known
    | _ => exact kept

section Alike
variable {P : Exchange → Prop} (lasting : ∀ e x, P x → I e → x.call.Due e → I (x.applied e))
include lasting

/-- What only exchanges unlike `P` can change holds all along a course without such ones: of what is
known and of what is saved. -/
theorem Course.lasting_while {a z : Standing} {es : List Exchange} (h : Course a es z)
    (alike : ∀ x ∈ es, P x) (known : I a.known) (kept : I a.kept) :
    (I z.known ∧ I z.kept) ∧ ∀ x ∈ es, ∃ e, I e ∧ x.call.Due e := by
  induction h with
  | nil => exact ⟨⟨known, kept⟩, List.forall_mem_nil _⟩
  | cons move _ ih =>
      obtain ⟨first, others⟩ := List.forall_mem_cons.mp alike
      obtain ⟨known', kept'⟩ := move.lasting (lasting _ _ first · move.due) known kept
      obtain ⟨last, rest⟩ := ih others known' kept'
      exact ⟨last, List.forall_mem_cons.mpr ⟨⟨_, known, move.due⟩, rest⟩⟩

theorem IsRun.lasting_while {e : Environment} {es : List Exchange} (h : IsRun e es)
    (alike : ∀ x ∈ es, P x) (start : I e) :
    I (kept e es) ∧ ∀ x ∈ es, ∃ e, I e ∧ x.call.Due e := by
  obtain ⟨z, course⟩ := h.course
  obtain ⟨⟨_, saved⟩, due⟩ := course.lasting_while lasting alike start start
  rw [course.kept] at saved
  exact ⟨saved, due⟩

theorem Chain.lasting_while {e k : Environment} {runs : List (List Exchange)} (h : Chain e runs k)
    (alike : ∀ es ∈ runs, ∀ x ∈ es, P x) (start : I e) :
    I k ∧ ∀ es ∈ runs, ∀ x ∈ es, ∃ e, I e ∧ x.call.Due e := by
  induction h with
  | nil => exact ⟨start, List.forall_mem_nil _⟩
  | cons isRun _ ih =>
      obtain ⟨first, others⟩ := List.forall_mem_cons.mp alike
      obtain ⟨saved, due⟩ := isRun.lasting_while lasting first start
      obtain ⟨last, rest⟩ := ih others saved
      exact ⟨last, List.forall_mem_cons.mpr ⟨due, rest⟩⟩

end Alike

/-- A lasting fact holds all along a course: of what is known and of what is saved. -/
theorem Course.lasting {a z : Standing} {es : List Exchange} (h : Course a es z)
    (lasting : Lasting I) (known : I a.known) (kept : I a.kept) :
    (I z.known ∧ I z.kept) ∧ ∀ x ∈ es, ∃ e, I e ∧ x.call.Due e :=
  h.lasting_while (fun e x _ => lasting e x) (fun _ _ => trivial) known kept

theorem Chain.lasting {e k : Environment} {runs : List (List Exchange)} (h : Chain e runs k)
    (lasting : Lasting I) (start : I e) :
    I k ∧ ∀ es ∈ runs, ∀ x ∈ es, ∃ e, I e ∧ x.call.Due e :=
  h.lasting_while (fun e x _ => lasting e x) (fun _ _ _ _ => trivial) start

end Dismantle.Teardown
