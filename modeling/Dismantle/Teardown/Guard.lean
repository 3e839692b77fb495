import Dismantle.Teardown.Consent
import Dismantle.Teardown.Flags
import Dismantle.Teardown.Task
import Dismantle.Terraform.Version
/-! The checks before anything is deleted. Two of them may end a run quietly; every other one
fails. -/
namespace Dismantle.Teardown

def guardLogger : String := "envteardown.teardown.guard"

/-- Whether there is nothing to tear down and that is all right. -/
def skipMissing (flags : Flags) (e : Environment) : Task Bool := do
  if flags.skipIfMissing && e.isEmpty then
    Task.tell (.step "state file not found, and --skip-if-missing flag provided, exiting")
    return true
  return false

/-- Whether the user agrees, or has agreed by a flag. -/
def confirm (flags : Flags) (e : Environment) : Task Bool := do
  if flags.noConfirm then return true
  let answer ← Task.ask (.prompt (question e.envId))
  if isConsent answer then return true
  Task.log Log.info guardLogger "Destroy declined at confirmation prompt"
  Task.tell (.step "exiting")
  return false

/-- Whether a version will do, as the report on one that will not. -/
def judgeVersion (found : String) : Except Fault Unit :=
  match Terraform.Version.parse found with
  | .error u => .error (.reportOf (.general .validation .error) u.text u.fault)
  | .ok v =>
    if v.atLeast Terraform.Version.minimum then .ok ()
    else .error (.outdatedTerraform Terraform.Version.minimum.text found)

def checkVersion : Task Unit := do
  let found : String ← Task.ask .terraformVersion
  Task.ofExcept (judgeVersion found)
  Task.log Log.debug guardLogger
    ("terraform " ++ found ++ " satisfies minimum " ++ Terraform.Version.minimum.text)

def validateCredentials (e : Environment) : Task Unit :=
  match e.provider with
  | .aws => Task.tell (.validateAws e.aws)
  | .gcp => Task.tell (.validateGcp e.gcp)
  | .unset => Task.log Log.debug guardLogger "No provider recorded, skipping credential validation"

end Dismantle.Teardown
