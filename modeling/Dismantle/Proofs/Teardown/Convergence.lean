import Dismantle.Proofs.Teardown.Chain
import Dismantle.Proofs.Teardown.Success
/-! A run that meets with no fault finishes what any runs before it have left: it ends with the same
record as if it had been the first. -/
namespace Dismantle.Teardown

/-- The record without anything that its provider owns. The type of a load balancer goes with the
stack alone, so one that is on record without a stack stays. -/
def cleared (e : Environment) : Environment :=
  { e with
    director := {}
    stack :=
      if e.provider = .gcp then e.stack
      else { lbType := if e.stack.name = "" then e.stack.lbType else "" }
    keyPair := if e.provider = .unset then e.keyPair else {}
    tfState := if e.provider = .gcp then "" else e.tfState }

theorem Exchange.lbType_applied {x : Exchange} {e : Environment} (due : x.call.Due e) :
    (if (x.applied e).stack.name = "" then (x.applied e).stack.lbType else "") =
      if e.stack.name = "" then e.stack.lbType else "" := by
  cases told : x.finding.stack with
  | none => simp only [applied, told, Option.getD_none]
  | some name =>
      have empty := x.finding_erases.stack name told
      have recorded := (x.finding_fits due).stack name told
      simp only [applied, told, Option.getD_some, empty, if_true, if_neg recorded]

theorem cleared_applied {x : Exchange} {e : Environment} (due : x.call.Due e) :
    cleared (x.applied e) = cleared e := by
  have fits := x.finding_fits due
  have stack : (cleared (x.applied e)).stack = (cleared e).stack := by
    by_cases gcp : e.provider = .gcp
    · obtain ⟨name, certificate⟩ := fits.stackOwned gcp
      simp only [cleared, gcp, if_true, Exchange.applied, name, certificate, Option.getD_none]
    · have other : (x.applied e).provider ≠ .gcp := gcp
      simp only [cleared, if_neg other, if_neg gcp, Exchange.lbType_applied due]
  have keyPair : (cleared (x.applied e)).keyPair = (cleared e).keyPair := by
    by_cases unset : e.provider = .unset
    · simp only [cleared, Exchange.applied, unset, if_true, fits.keyPairOwned unset, Option.getD_none]
    · simp only [cleared, Exchange.applied, unset, if_false]
  have tfState : (cleared (x.applied e)).tfState = (cleared e).tfState := by
    by_cases gcp : e.provider = .gcp
    · simp only [cleared, Exchange.applied, gcp, if_true]
    · simp only [cleared, Exchange.applied, if_neg gcp, fits.tfStateOwned gcp, Option.getD_none]
  calc cleared (x.applied e)
      = { cleared e with
          stack := (cleared (x.applied e)).stack
          keyPair := (cleared (x.applied e)).keyPair
          tfState := (cleared (x.applied e)).tfState } := rfl
    _ = cleared e := by rw [stack, keyPair, tfState]

/-- A chain of runs has nothing cleared but what the provider owns. -/
theorem Chain.cleared {start k : Environment} {runs : List (List Exchange)}
    (h : Chain start runs k) : cleared k = cleared start := by
  have lasting : Lasting fun e => Teardown.cleared e = Teardown.cleared start :=
    fun e x same due => (cleared_applied due).trans same
  exact (h.lasting lasting rfl).1

theorem clearedBut_withoutStack (e : Environment) : clearedBut withoutStack e = cleared e := rfl

theorem run_succeeds {supported : List Provider} {p : Progress}
    (registered : p.env.provider ∈ supported) :
    (run supported ["-n"]).Succeeds .faultless p fun outcome p' =>
      outcome.status = .completed ∧ p'.env = cleared p.env := by
  rw [← clearedBut_withoutStack]
  exact run_succeeds_leaving faultless_leaves registered

/-- After any chain of runs, a run without confirmation whose calls go well completes, and leaves
the same record as a run of that kind that starts where the chain did. -/
theorem chain_converges {start k : Environment} {runs : List (List Exchange)}
    (chain : Chain start runs k) {supported : List Provider}
    (registered : start.provider ∈ supported) {σ τ : Type} (h : Handler σ) (s : σ) (g : Handler τ)
    (t : τ) {p q : Progress} (after : p.env = k) (first : q.env = start)
    (well : ∀ x ∈ (run supported ["-n"] p).history h s, x.wentWell = true)
    (well' : ∀ x ∈ (run supported ["-n"] q).history g t, x.wentWell = true) :
    (∃ n, ((run supported ["-n"] p).perform h s).1.1 = .ok ⟨.completed, n⟩) ∧
      ((run supported ["-n"] p).perform h s).1.2.env =
        ((run supported ["-n"] q).perform g t).1.2.env := by
  subst after first
  have same : p.env.provider = q.env.provider := by
    change (cleared p.env).provider = (cleared q.env).provider
    rw [chain.cleared]
  obtain ⟨outcome, ok, completed, left⟩ :=
    (run_succeeds (same ▸ registered)).ensures.performed h s well
  obtain ⟨_, _, _, left'⟩ := (run_succeeds registered).ensures.performed g t well'
  refine ⟨⟨outcome.checkpoints, ?_⟩, ?_⟩
  · rw [ok, ← completed]
  · rw [left, left', chain.cleared]

/-- A first run has deleted half of the director. -/
theorem chain_converges_halfway :
    let after := (run Provider.all ["-n"] { env := { director := { name := "half" } } }).perform
      (Stage.handler {}) { kept := {} }
    let first := (run Provider.all ["-n"] { env := { director := { name := "whole" } } }).perform
      (Stage.handler {}) { kept := {} }
    (∃ n, after.1.1 = .ok ⟨.completed, n⟩) ∧ after.1.2.env = first.1.2.env := by
  have chain : Chain { director := { name := "whole" } } [_] { director := { name := "half" } } :=
    .cons (isRun_rehearsed halfway _) (.nil _)
  exact chain_converges chain (by decide) (Stage.handler {}) { kept := {} } (Stage.handler {})
    { kept := {} } rfl rfl (List.all_eq_true.mp rfl) (List.all_eq_true.mp rfl)

end Dismantle.Teardown
