import Dismantle.Host.Command
import Dismantle.Json.Access
import Dismantle.Terraform.Tool
/-! The gcloud program, run against one project as the environment's service account. -/
namespace Dismantle.Gcloud

structure Tool where
  serviceAccountKey : String
  projectId : String
  program : String := "gcloud"
  deriving Repr

/-- The system decides where a workspace lies; this name stands for the place. -/
def workspaceName : String := "<gcloud-work>"

def keyFile : String := "service-account.json"

namespace Tool

/-- A run of the program; `named` are further files that the arguments name. -/
def command (t : Tool) (arguments : List String) (named : NamedFiles) : Command :=
  { arguments := t.program :: arguments ++ ["--project=" ++ t.projectId, "--quiet"]
    exports := [("CLOUDSDK_AUTH_CREDENTIAL_FILE_OVERRIDE", workspaceName ++ "/" ++ keyFile)]
    named := named.put keyFile (.text t.serviceAccountKey) }

def run (t : Tool) (arguments : List String) (named : NamedFiles := []) : Act Host CommandResult :=
  (t.command arguments named).run

/-- Runs the program and reads what it prints. -/
def query (t : Tool) (arguments : List String) : Act Host Json := do
  let r ← t.run (arguments ++ ["--format=json"])
  Act.ofExcept (Terraform.Tool.readOutput
    ("gcloud returned invalid JSON for " ++ " ".intercalate arguments) "null" r.output)

def orElse (v empty : Json) : Json := if v.counts then v else empty

def instances (t : Tool) : Act Host Json := do
  let v ← t.query ["compute", "instances", "list"]
  return orElse v (.arr [])

/-- Items by key, in order of appearance; of several items with one key the last one counts. -/
abbrev Metadata := List (Json × Json)

def Metadata.put : Metadata → Json → Json → Metadata
  | [], key, v => [(key, v)]
  | (k, w) :: rest, key, v => if k.same key then (k, v) :: rest else (k, w) :: put rest key v

def Metadata.get? (m : Metadata) (key : String) : Option Json :=
  (m.find? fun e => e.1.same (.str key)).map (·.2)

/-- Adds an item with its key and its value; lists and objects cannot be keys. -/
def Metadata.add (m : Metadata) (item : Json) : Except Fault Metadata := do
  let key ← item.demand "key"
  let v ← item.find "value" (.str "")
  match key with
  | .arr _ | .obj _ => .error (.wrongType ("unhashable type: '" ++ key.kindName ++ "'"))
  | key => .ok (m.put key v)

def Metadata.ofInfo (info : Json) : Except Fault Metadata := do
  let common ← info.find "commonInstanceMetadata" (.obj [])
  let items ← common.find "items" (.arr [])
  (← items.each).foldlM Metadata.add []

def metadata (t : Tool) : Act Host Metadata := do
  let info ← t.query ["compute", "project-info", "describe"]
  Act.ofExcept (Metadata.ofInfo (orElse info (.obj [])))

def fileName (name : String) : Except Fault String :=
  let place := (Path.ofText workspaceName).child name
  match (Path.ofText name).absolute, (Path.ofText name).parts with
  | false, [part] => .ok part
  | false, [] => .error (.system ⟨SystemFault.isDirectory, [place.text]⟩)
  | _, _ => .error (.system ⟨SystemFault.notFound, [place.text]⟩)

/-- Sets an item of the project's metadata; its value is handed over in a file. -/
def setMetadata (t : Tool) (key value : String) : Act Host Unit := do
  let file ← Act.ofExcept (fileName key)
  let _ ← t.run ["compute", "project-info", "add-metadata",
    "--metadata-from-file=" ++ key ++ "=" ++ workspaceName ++ "/" ++ file] [(file, .text value)]

def removeMetadata (t : Tool) (key : String) : Act Host Unit := do
  let _ ← t.run ["compute", "project-info", "remove-metadata", "--keys=" ++ key]

end Tool
end Dismantle.Gcloud
