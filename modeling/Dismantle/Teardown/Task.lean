import Dismantle.Fault.Text
import Dismantle.Teardown.Program
/-! Tasks: programs that may fail and that change the record of the environment as they go on.
A failed task keeps its changes. After each confirmed deletion the record is saved; one such
saving is a checkpoint. -/
namespace Dismantle.Teardown

/-- The record as it stands, the checkpoints made so far and the tags of log records. -/
structure Progress where
  env : Environment
  saved : Nat := 0
  tags : Log.Tags := {}
  deriving Repr, Inhabited

def Task (α : Type) : Type := Progress → Program (Except Fault α × Progress)

namespace Task
variable {α β : Type}

instance : Monad Task where
  pure a := fun p => .done (.ok a, p)
  bind t f := fun p => (t p).bind fun
    | (.ok a, p) => f a p
    | (.error e, p) => .done (.error e, p)

theorem bind_apply (t : Task α) (f : α → Task β) (p : Progress) :
    (t >>= f) p = (t p).bind fun
      | (.ok a, p) => f a p
      | (.error e, p) => .done (.error e, p) := rfl

theorem map_id (t : Task α) : id <$> t = t := by
  funext p
  change (t >>= pure) p = t p
  rw [bind_apply]
  refine Eq.trans (congrArg _ ?_) (Program.bind_done (t p))
  funext ⟨r, p⟩
  cases r <;> rfl

theorem bind_assoc {γ : Type} (t : Task α) (f : α → Task β) (g : β → Task γ) :
    t >>= f >>= g = t >>= fun a => f a >>= g := by
  funext p
  simp only [bind_apply, Program.bind_assoc]
  refine congrArg _ ?_
  funext ⟨r, p⟩
  cases r <;> rfl

instance : LawfulMonad Task := LawfulMonad.mk' Task map_id (fun _ _ => rfl) bind_assoc

def fail (f : Fault) : Task α := fun p => .done (.error f, p)

def ofExcept (r : Except Fault α) : Task α := fun p => .done (r, p)

/-- Goes on after a fault, which becomes the result. -/
def attempt (t : Task α) : Task (Except Fault α) := fun p => (t p).bind fun (r, p) => .done (.ok r, p)

def ask (c : Call) : Task c.Answer := fun p => .call p.tags c fun answer => .done (answer, p)

/-- Asks and does not wait for anything but the end of the call. -/
def tell (c : Call) : Task Unit := fun p => .call p.tags c fun answer => .done (answer.map fun _ => (), p)

def log (level : Log.Level) (logger message : String) : Task Unit := fun p =>
  .log { level, logger, message, tags := p.tags } (.done (.ok (), p))

def env : Task Environment := fun p => .done (.ok p.env, p)

def saved : Task Nat := fun p => .done (.ok p.saved, p)

def change (f : Environment → Environment) : Task Unit := fun p =>
  .done (.ok (), { p with env := f p.env })

def within (tags : Log.Tags) (t : Task α) : Task α := fun p =>
  (t { p with tags := tags.within p.tags }).bind fun (r, after) =>
    .done (r, { after with tags := p.tags })

def checkpointLogger : String := "envteardown.state.checkpoint"

/-- What was just deleted, as a log message ends with it. -/
def after (label : String) : String := if label = "" then "" else " after " ++ label

/-- Saves the record as it stands. A failed saving undoes nothing. -/
def checkpoint (label : String) : Task Unit := do
  let e ← env
  match ← attempt (tell (.save e)) with
  | .error f =>
    log Log.error checkpointLogger ("Failed to save checkpoint" ++ after label ++ ": " ++ f.text)
    fail f
  | .ok () =>
    fun p => .done (.ok (), { p with saved := p.saved + 1 })
    let n ← saved
    log Log.debug checkpointLogger ("Checkpoint " ++ toString n ++ " saved" ++ after label)

/-- Saves what a failed step left behind and fails with its fault, or with both faults if saving
fails as well. -/
def checkpointThenFail (label : String) (f : Fault) : Task α := do
  match ← attempt (checkpoint label) with
  | .ok () => fail f
  | .error later => fail (.several [f, later])

end Task
end Dismantle.Teardown
