import Dismantle.Environment.Check
import Dismantle.Environment.Depth
import Dismantle.Fault.Report
import Dismantle.Host.Command
import Dismantle.Json.Reader
import Dismantle.Json.Writer
import Dismantle.Yaml.Plain
import Dismantle.Yaml.Writer
/-! Deleting the director. The program needs the manifest, its own state and the credentials the
director was made with; what it leaves of the last two when it fails is recorded. -/
namespace Dismantle.Bosh

structure Tool where
  program : String := "bosh"
  deriving Repr, Inhabited

def logger : String := "envteardown.bosh.manager"

/-- The system decides where a workspace lies; this name stands for the place. -/
def workspaceName : String := "<bosh-work>"

def manifestFile : String := "bosh.yml"
def stateFile : String := "state.json"
def credentialsFile : String := "variables.yml"

/-- What is said when a file of the workspace cannot be read. -/
def unreadState : String := "Could not read director state after failed delete-env: "
def unreadCredentials : String := "Could not read vars-store after failed delete-env: "

def missingManifest : Fault :=
  .reported .state "director manifest is missing from the state file" {} none
    ["Delete the director VM manually, then remove the bosh section"]

namespace Tool
variable [Limits]

def command (t : Tool) : Command :=
  { arguments := [t.program, "delete-env", manifestFile, "--state=" ++ stateFile,
      "--vars-store=" ++ credentialsFile, "--non-interactive"]
    inWorkspace := true }

/-- The text of a file of the workspace; `none` with a warning if there is no such file. -/
def readFrom (complaint name : String) : Act Host (Option String) := fun h =>
  match h.workspace.bind fun w => w.files.get? name with
  | some content => (content.read.map some |>.mapError .undecodable, h)
  | none =>
    let fault : SystemFault := ⟨SystemFault.notFound, [workspaceName ++ "/" ++ name]⟩
    (Host.note Log.warning logger (complaint ++ fault.text) >>= fun _ => pure none) h

/-- The director's state as the program left it; what is no object is not taken. -/
def stateLeft (known : Fields) : Act Host Fields := do
  match ← readFrom unreadState stateFile with
  | none => return known
  | some text => match Json.read text with
    | .ok (.obj fields) => return fields
    | .ok _ => return known
    | .error (.broken problem line column place) => do
      let f : Json.Unreadable := .broken problem line column place
      Host.note Log.warning logger (unreadState ++ f.text)
      return known
    | .error f => Act.fail (.unreadable f)

/-- The name that a key is; bytes are one if they spell text. -/
def nameOf : Yaml.Value → Except Problem Spelling
  | .str s => .ok s
  | .unpaired points => .ok (.broken points)
  | .bytes bs => match Text.Utf8.decode bs with
    | .ok cs => .ok (String.ofList cs)
    | .error _ => .error .brokenText
  | _ => .error .notText

def namedCredentials (entries : List (Yaml.Value × Yaml.Value)) : Except Fault Yaml.Entries :=
  let issue (k : Yaml.Value) : Option Issue := match nameOf k with
    | .ok _ => none
    | .error p => some ⟨[.name "credentials", k.keyName, .name "[key]"], p⟩
  match entries.filterMap fun e => issue e.1 with
  | [] => .ok (entries.foldl (fun es e => match nameOf e.1 with
      | .ok name => Fields.put es name e.2
      | .error _ => es) [])
  | issues => .error (.invalid ⟨Director.title, issues⟩)

def credentialsLeft (known : Yaml.Entries) : Act Host Yaml.Entries := do
  match ← readFrom unreadCredentials credentialsFile with
  | none => return known
  | some text => match Yaml.Value.read Limits.reading text.toList with
    | .error .malformed => do
      Host.note Log.warning logger (unreadCredentials ++ "malformed document")
      return known
    | .error .tooDeep => Act.fail .exhausted
    | .error (.impossible p) => Act.fail p.fault
    | .ok v =>
      if !v.counts then return []
      match v with
      | .map entries => Act.ofExcept (namedCredentials entries)
      | _ => do
        Host.note Log.warning logger "vars-store is not a mapping after failed delete-env"
        return known

/-- The record with what a failed deletion left behind. -/
def environmentLeft (e : Environment) : Act Host Environment := do
  let left ← Act.ofExcept e.copy
  let state ← stateLeft e.director.state
  let credentials ← credentialsLeft e.director.credentials
  return { left with director := { left.director with state, credentials } }

/-- Data can be handed over to the program unless an integer in it has too many digits, or it lies
too deep inside one another. -/
def writable (levels : Nat) (fields : Fields) : Except Fault Unit :=
  match (Json.obj fields).cutShort .oneLine 0 with
  | none => if (Yaml.Value.ofJson (.obj fields)).height ≤ levels then .ok () else .error .exhausted
  | some _ => .error (.plain .value Json.unwritableText)

def delete (t : Tool) (e : Environment) : Act Host Unit :=
  let d := e.director
  if d.manifest = "" then Act.fail missingManifest
  else do
    Host.inWorkspace workspaceName do
      Host.putFile manifestFile (.text d.manifest)
      Act.ofExcept (writable Limits.encoding d.state)
      Host.putFile stateFile (.text (Json.line (.obj d.state)))
      let credentials := d.credentials.fields
      Act.ofExcept (writable Limits.writing credentials)
      Host.putFile credentialsFile (.text (Yaml.document credentials))
      match ← Act.attempt t.command.run with
      | .ok _ => pure ()
      | .error f =>
        if f.isCommand then
          let left ← environmentLeft e
          Act.fail (.directorLeft left f)
        else Act.fail f
    Host.note Log.info logger ("Director " ++ (if d.name = "" then "(unnamed)" else d.name) ++ " deleted")

end Tool
end Dismantle.Bosh
