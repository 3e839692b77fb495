import Dismantle.Fault.Report
import Dismantle.Host.Command
import Dismantle.Json.Access
import Dismantle.Teardown.Call
import Dismantle.Terraform.Version
import Dismantle.Text.Lines
/-! The Terraform program: its version, the outputs of a state, and destroying what a state holds.
Each invocation has a workspace of its own. -/
namespace Dismantle.Terraform

/-- How the program is called. -/
structure Tool where
  program : String := "terraform"
  deriving Repr, Inhabited

def logger : String := "envteardown.terraform.executor"

/-- The system decides where a workspace lies; this name stands for the place. -/
def workspaceName : String := "<terraform-work>"

def templateFile : String := "template.tf"
def stateFile : String := "terraform.tfstate"
def credentialsFile : String := "credentials.json"

namespace Tool

/-- The program is told not to ask anybody anything. -/
def command (t : Tool) (arguments : List String) (inWorkspace : Bool) : Command :=
  { arguments := t.program :: arguments, inWorkspace, exports := [("TF_INPUT", "0")] }

def firstLine (output : String) : String := (Text.splitLines (Text.strip output)).headD ""

def version (t : Tool) : Act Host String := do
  let r ← (t.command ["version"] false).run
  let line := firstLine r.output
  match Version.parse line with
  | .ok v => return v.text
  | .error _ =>
    Act.fail (.report .command
      ("could not determine terraform version from: " ++ Text.quoted line))

def readState (fallback : String) : Act Host String := fun h =>
  match h.workspace.bind fun w => w.files.get? stateFile with
  | none => (.ok fallback, h)
  | some content => (content.read.mapError .undecodable, h)

def inputs (d : Teardown.Destruction) : List (String × String) := [
  ("project_id", d.projectId),
  ("env_id", d.envId),
  ("region", d.region),
  ("zone", d.zone),
  ("credentials", workspaceName ++ "/" ++ credentialsFile)]

def variableArguments (d : Teardown.Destruction) : List String :=
  (inputs d).flatMap fun v => ["-var", v.1 ++ "=" ++ v.2]

def stateArgument : String := "-state=" ++ stateFile

/-- Initialises the workspace and destroys what its state holds. -/
def destroyCommands (t : Tool) (d : Teardown.Destruction) : Act Host Unit := do
  let _ ← (t.command ["init", "-input=false"] true).run
  let _ ← (t.command (["destroy", "-auto-approve", stateArgument] ++ variableArguments d) true).run

/-- Destroys everything in a state and gives the state that is left. The failure of a program keeps the
state that the program has written by then. -/
def destroy (t : Tool) (d : Teardown.Destruction) : Act Host String :=
  Host.inWorkspace workspaceName do
    Host.writeText templateFile d.template
    Host.writeText credentialsFile d.credentials
    if d.tfState ≠ "" then Host.writeText stateFile d.tfState
    match ← Act.attempt (t.destroyCommands d) with
    | .error f =>
      if f.isCommand then
        let left ← readState d.tfState.shown
        Act.fail (.infrastructureLeft left f)
      else Act.fail f
    | .ok () =>
      Host.note Log.info logger ("terraform destroy completed for " ++ d.envId)
      readState ""

def outputText (entry : Json) : Except Fault String := do
  match ← entry.find "value" .null with
  | .null => return ""
  | v => return v.display

def outputTexts (v : Json) : Except Fault (List (Spelling × String)) :=
  match v with
  | .obj fs => fs.mapM fun f => (outputText f.2).map fun s => (f.1, s)
  | v => .error (.noAttribute v.kindName "items")

/-- Reads what a program printed as structured data; printing nothing counts as `empty`. -/
def readOutput (complaint : String) (empty output : String) : Except Fault Json :=
  match Json.read (if output = "" then empty else output) with
  | .ok v => .ok v
  | .error (.broken problem line column place) =>
    let f := Fault.unreadable (.broken problem line column place)
    .error (.reportOf .command (complaint ++ ": " ++ f.text) f)
  | .error f => .error (.unreadable f)

/-- The outputs of a state, all as text; an empty state has none. -/
def outputs (t : Tool) (tfState : String) : Act Host (List (Spelling × String)) :=
  if tfState = "" then pure []
  else do
    let r ← Host.inWorkspace workspaceName do
      Host.putFile stateFile (.text tfState)
      (t.command ["output", "-json", stateArgument] true).run
    Act.ofExcept do
      let v ← readOutput "terraform output returned invalid JSON" "\x7b\x7d" r.output
      outputTexts v

def identifiers (found : List (Spelling × String)) : Teardown.Outputs :=
  let get (name : Spelling) : String := (found.lookup name).getD ""
  { externalIp := get "external_ip"
    networkName := get "network_name"
    subnetworkName := get "subnetwork_name"
    boshTag := get "bosh_open_tag_name"
    internalTag := get "internal_tag_name"
    directorAddress := get "director_address" }

def environmentOutputs (t : Tool) (tfState : String) : Act Host Teardown.Outputs := do
  let found ← t.outputs tfState
  return identifiers found

end Tool
end Dismantle.Terraform
