import Dismantle.Aws.Removal
import Dismantle.Bosh.Tool
import Dismantle.Console.Report
import Dismantle.Credentials
import Dismantle.Environment.Store
import Dismantle.Gcloud.Checks
import Dismantle.Settings.Basic
import Dismantle.Teardown.Steps
import Dismantle.Terraform.Tool
/-! Carrying a teardown out: every call goes to the tool, the service, the store or the console
that it is meant for. -/
namespace Dismantle.Teardown

/-- Everything a teardown works with. `width` is the width of the console. -/
structure Site where
  desk : Aws.Desk
  store : Store
  terraform : Terraform.Tool
  gcloud : Gcloud.Tool
  bosh : Bosh.Tool
  width : Nat

namespace Site

/-- The keys that the record holds; empty ones are none. -/
def keysOf (s : Settings) (a : AwsAccount) : Aws.Keys := {
  accessKeyId := Aws.present? (some a.accessKeyId)
  secretAccessKey := Aws.present? (some a.secretAccessKey)
  region := Aws.present? (some a.region)
  profile := s.awsProfile }

/-- What tearing a record down under settings works with. -/
def of (s : Settings) (e : Environment) (store : Store) (width : Nat) (h : Host) : Site := {
  desk := { host := h, manager := { keys := keysOf s e.aws } }
  store := store
  terraform := ⟨s.terraformBinary⟩
  gcloud := ⟨e.gcp.serviceAccountKey, e.gcp.projectId, s.gcloudBinary⟩
  bosh := ⟨s.boshBinary⟩
  width := width }

/-- Lets work with the service go on under the tags of a call. -/
def onDesk {α : Type} (tags : Log.Tags) (act : Act Aws.Desk α) : Act Site α := fun s =>
  let before := s.desk.host.journal.tags
  let tagged (d : Aws.Desk) (tags : Log.Tags) : Aws.Desk :=
    { d with host := { d.host with journal := { d.host.journal with tags } } }
  let (r, d) := act (tagged s.desk tags)
  (r, { s with desk := tagged d before })

def onHost {α : Type} (tags : Log.Tags) (act : Act Host α) : Act Site α :=
  onDesk tags (Aws.Desk.onHost act)

/-- Deletes the director. What a failure left is recorded as a copy, so a record that cannot be copied is
not given back. -/
def deleteDirector [Limits] (s : Site) (e : Environment) : Act Host Unit := do
  match ← Act.attempt (s.bosh.delete e) with
  | .error (.directorLeft left cause) => match left.copy with
    | .ok left => Act.fail (.directorLeft left cause)
    | .error f =>
      Host.note Log.warning directorLogger (partialDirectorText (.directorLeft left cause))
      Act.fail f
  | r => Act.ofExcept r

def save [Limits] (s : Site) (e : Environment) : Act Host Unit := do
  s.store.save (← Act.ofExcept e.copy)

def reply [Limits] (s : Site) (tags : Log.Tags) : (c : Call) → Act Site c.Answer
  | .validateRecord e => onHost tags (s.store.validate e)
  | .save e => onHost tags (s.save e)
  | .prompt text => (onHost tags (Console.ask s.width text) : Act Site String)
  | .step text => onHost tags (Console.step s.width text)
  | .note text => onHost tags (Console.note s.width text)
  | .terraformVersion => (onHost tags s.terraform.version : Act Site String)
  | .validateAws a => onHost tags (Credentials.checkAws a)
  | .validateGcp g => onHost tags (Credentials.checkGcp g)
  | .deleteDirector e => onHost tags (s.deleteDirector e)
  | .describeStack name => (onDesk tags (Aws.Desk.describeStack name) : Act Site StackDescription)
  | .checkVpc id => onDesk tags (Aws.Desk.checkVpc id)
  | .deleteStack name => onDesk tags (Aws.Desk.deleteStack {} name)
  | .deleteCertificate name => onDesk tags (Aws.Desk.deleteCertificate name)
  | .deleteAwsKeyPair name => onDesk tags (Aws.Desk.deleteKeyPair name)
  | .terraformOutputs e => (onHost tags (s.terraform.environmentOutputs e.tfState) : Act Site Outputs)
  | .checkNetwork name => onHost tags (Gcloud.checkNetwork s.gcloud name)
  | .terraformDestroy d => (onHost tags (s.terraform.destroy d) : Act Site String)
  | .deleteGcpKeyPair key => onHost tags (Gcloud.deleteKey s.gcloud key)

def handler [Limits] : Handler Site where
  log r s := { s with desk := { s.desk with
    host := { s.desk.host with journal := s.desk.host.journal.add r } } }
  answer tags c s := reply s tags c s

end Site
end Dismantle.Teardown
