import Dismantle.Teardown.Guard
import Dismantle.Teardown.Steps
/-! A whole teardown: the checks, the director, then what the provider holds. Whatever was deleted
before a fault is saved already, so a run that failed is simply repeated. -/
namespace Dismantle.Teardown

/-- How a run ends that does not fail. Skipped and cancelled runs deleted nothing. -/
inductive Status where
  | completed | skipped | cancelled
  deriving DecidableEq, Repr

structure Outcome where
  status : Status
  checkpoints : Nat
  deriving DecidableEq, Repr

def runLogger : String := "envteardown.teardown.destroy"

def stepName : Provider → String
  | .unset => "stack"
  | p => p.text

/-- What follows once all checks have passed. -/
def dismantle (provider : Provider) (envId : String) : Task Unit := do
  Task.log Log.info runLogger ("Destroying environment " ++ named envId)
  Task.within { step := some (.str "director") } deleteDirector
  Task.within { step := some (.str (stepName provider)) } (tearDown provider)
  Task.log Log.info runLogger ("Environment " ++ named envId ++ " destroyed")

/-- The run behind the flags. `supported` lists the providers that can be torn down. -/
def runGuarded (supported : List Provider) (flags : Flags) (e : Environment) : Task Status := do
  if ← skipMissing flags e then return .skipped
  Task.tell (.validateRecord e)
  if !(← confirm flags e) then return .cancelled
  checkVersion
  validateCredentials e
  if !supported.contains e.provider then
    Task.fail (.report .validation ("unsupported IAAS: " ++ Text.quoted e.provider.text))
  dismantle e.provider e.envId
  return .completed

def run (supported : List Provider) (arguments : List String) : Task Outcome := do
  let before ← Task.saved
  let flags ← Task.ofExcept (Flags.parse arguments)
  let e ← Task.env
  let tags : Log.Tags := { envId := some (.str e.envId), provider := some (.str e.provider.text) }
  let status ← Task.within tags (runGuarded supported flags e)
  let now ← Task.saved
  return { status, checkpoints := now - before }

end Dismantle.Teardown
