import Dismantle.Fault.Basic
import Dismantle.Log.Record
import Dismantle.Teardown.Call
/-! A teardown as the calls it makes: it logs, or calls and goes on with the answer, or is done.
Whoever performs it answers the calls, so that the same teardown can be carried out, rehearsed
and reasoned about. -/
namespace Dismantle.Teardown

inductive Program (α : Type) where
  | done (a : α)
  | log (r : Log.Record) (next : Program α)
  | call (tags : Log.Tags) (c : Call) (next : Except Fault c.Answer → Program α)

namespace Program
variable {α β σ : Type}

def bind : Program α → (α → Program β) → Program β
  | .done a, f => f a
  | .log r next, f => .log r (next.bind f)
  | .call tags c next, f => .call tags c fun answer => (next answer).bind f

theorem bind_done (p : Program α) : p.bind .done = p := by
  induction p with
  | done a => rfl
  | log r next ih => simp only [bind, ih]
  | call tags c next ih => simp only [bind, ih]

theorem bind_assoc {γ : Type} (p : Program α) (f : α → Program β) (g : β → Program γ) :
    (p.bind f).bind g = p.bind fun a => (f a).bind g := by
  induction p with
  | done a => rfl
  | log r next ih => simp only [bind, ih]
  | call tags c next ih => simp only [bind, ih]

end Program

/-- Answers calls and takes records, each time giving its next state. -/
structure Handler (σ : Type) where
  log : Log.Record → σ → σ
  answer : Log.Tags → (c : Call) → σ → Except Fault c.Answer × σ

def Program.perform {α σ : Type} (h : Handler σ) : Program α → σ → α × σ
  | .done a, s => (a, s)
  | .log r next, s => next.perform h (h.log r s)
  | .call tags c next, s =>
    let (answer, s) := h.answer tags c s
    (next answer).perform h s

/-- One program after another: the second starts in the state that the first has reached. -/
theorem Program.perform_bind {α β σ : Type} (h : Handler σ) (p : Program α) (f : α → Program β)
    (s : σ) : (p.bind f).perform h s = (f (p.perform h s).1).perform h (p.perform h s).2 := by
  induction p generalizing s with
  | done a => rfl
  | log r next ih => exact ih (h.log r s)
  | call tags c next ih => exact ih (h.answer tags c s).1 (h.answer tags c s).2

end Dismantle.Teardown
