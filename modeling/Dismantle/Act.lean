import Dismantle.Fault.Basic
/-! Work that may fail. What was done before a fault stays done: a failing act still gives the
state it has reached. -/
namespace Dismantle

def Act (σ α : Type) : Type := σ → Except Fault α × σ

namespace Act
variable {σ τ α β : Type}

instance : Monad (Act σ) where
  pure a := fun s => (.ok a, s)
  bind act next := fun s => match act s with
    | (.ok a, s) => next a s
    | (.error f, s) => (.error f, s)

theorem bind_apply (act : Act σ α) (next : α → Act σ β) (s : σ) :
    (act >>= next) s = match act s with
      | (.ok a, s) => next a s
      | (.error f, s) => (.error f, s) := rfl

theorem pure_apply (a : α) (s : σ) : (pure a : Act σ α) s = (.ok a, s) := rfl

theorem map_id (act : Act σ α) : id <$> act = act := by
  funext s
  change (act >>= pure) s = act s
  rw [bind_apply]
  split <;> simp_all [pure_apply]

theorem bind_assoc {γ : Type} (act : Act σ α) (f : α → Act σ β) (g : β → Act σ γ) :
    act >>= f >>= g = act >>= fun a => f a >>= g := by
  funext s
  simp only [bind_apply]
  cases h : act s with | mk r s => cases r <;> rfl

instance : LawfulMonad (Act σ) := LawfulMonad.mk' (Act σ) map_id (fun _ _ => rfl) bind_assoc

def fail (f : Fault) : Act σ α := fun s => (.error f, s)

def ofExcept (r : Except Fault α) : Act σ α := fun s => (r, s)

/-- Goes on after a fault, which becomes the result. -/
def attempt (act : Act σ α) : Act σ (Except Fault α) := fun s =>
  let (r, s) := act s
  (.ok r, s)

def get : Act σ σ := fun s => (.ok s, s)

def modify (f : σ → σ) : Act σ Unit := fun s => (.ok (), f s)

/-- Lets other work speak of a fault in its own words. -/
def mapFault (act : Act σ α) (f : Fault → Fault) : Act σ α := fun s =>
  let (r, s) := act s
  (r.mapError f, s)

def onPart (part : τ → σ) (put : τ → σ → τ) (act : Act σ α) : Act τ α := fun t =>
  let (r, s) := act (part t)
  (r, put t s)

end Act
end Dismantle
