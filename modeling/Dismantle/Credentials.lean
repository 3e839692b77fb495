import Dismantle.Aws.Stack
import Dismantle.Json.Display
import Dismantle.Json.Reader
/-! Checking the recorded credentials before anything is touched. AWS keys are verified with the
service; of a GCP key only the form is checked. -/
namespace Dismantle.Credentials

def logger : String := "envteardown.providers.credentials"

/-- Fails at the first value that is empty. -/
def demandAll : List (String × String) → Except Fault Unit
  | [] => .ok ()
  | (name, value) :: rest =>
    if value = "" then .error (.report .credential (name ++ " must be provided")) else demandAll rest

/-- The keys that the record's own credentials open sessions with. -/
def keysOf (a : AwsAccount) : Aws.Keys := {
  accessKeyId := some a.accessKeyId
  secretAccessKey := some a.secretAccessKey
  region := some a.region }

def circumstances : Circumstances := {
  service := some "sts", serviceOperation := some "get_caller_identity" }

/-- Verifies keys with a session that is used for nothing else. -/
def verify (keys : Aws.Keys) : Act Host Aws.Identity := fun h =>
  let (r, d) := Aws.Desk.verify { host := h, manager := { keys } }
  (r.mapError (·.classify circumstances), d.host)

def checkAws (a : AwsAccount) : Act Host Unit := do
  Act.ofExcept (demandAll [
    ("AWS access key ID", a.accessKeyId), ("AWS secret access key", a.secretAccessKey),
    ("AWS region", a.region)])
  let identity ← verify (keysOf a)
  Host.note Log.info logger ("Using AWS account " ++ identity.account.display)

def keyObject (key : String) : Except Fault Fields :=
  match Json.read key with
  | .ok (.obj fs) => .ok fs
  | .ok _ => .error (.report .credential "GCP service account key must be a JSON object")
  | .error (.broken problem line column place) =>
    let f := Fault.unreadable (.broken problem line column place)
    .error (.reported .credential ("GCP service account key must be valid JSON: " ++ f.text) {}
      (some f) ["Re-create the environment's service account key"])
  | .error f => .error (.unreadable f)

def checkGcp (g : GcpAccount) : Act Host Unit := do
  Act.ofExcept (demandAll [
    ("GCP service account key", g.serviceAccountKey), ("GCP project ID", g.projectId),
    ("GCP zone", g.zone), ("GCP region", g.region)])
  let fs ← Act.ofExcept (keyObject g.serviceAccountKey)
  let email := (Fields.get? fs "client_email").getD (.str "(unknown)")
  Host.note Log.debug logger ("GCP service account " ++ email.display ++ " for " ++ g.projectId)

end Dismantle.Credentials
