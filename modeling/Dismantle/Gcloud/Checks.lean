import Dismantle.Fault.Report
import Dismantle.Gcloud.Tool
import Dismantle.Text.Search
/-! Guarding a network that instances still use, and removing a key from a project. -/
namespace Dismantle.Gcloud

def logger : String := "envteardown.providers.gcp"

def lastSegment {α : Type} [DecidableEq α] (slash : α) (cs : List α) : List α :=
  (cs.reverse.takeWhile (· ≠ slash)).reverse

/-- Whether an interface is attached to a network, which it names by its address. -/
def attached (network : String) (interface : Json) : Except Fault Bool := do
  match ← interface.find "network" (.str "") with
  | .str s => return lastSegment '/' s.toList == network.toList
  | .unpaired points => return lastSegment 47 points == network.toList.map Char.toNat
  | v => .error (.noAttribute v.kindName "rsplit")

/-- Whether any of the interfaces is attached; those behind the first that is are not looked at. -/
def anyAttached (network : String) : List Json → Except Fault Bool
  | [] => .ok false
  | i :: rest => do if ← attached network i then return true else anyAttached network rest

def attachedName? (network : String) (instance_ : Json) : Except Fault (Option Json) := do
  let interfaces ← (← instance_.find "networkInterfaces" (.arr [])).each
  if ← anyAttached network interfaces then
    let name ← instance_.find "name" (.str "unnamed")
    return some name
  return none

def attachedNames (network : String) (instances : Json) : Except Fault (List Json) := do
  let found ← (← instances.each).mapM (attachedName? network)
  return found.filterMap id

/-- Fails while an instance is attached to the network. -/
def checkNetwork (t : Tool) (network : String) : Act Host Unit :=
  if network = "" then Host.note Log.debug logger "No network recorded, nothing to check"
  else do
    let instances ← t.instances
    Act.ofExcept do
      let names ← attachedNames network instances
      if names.isEmpty then return ()
      let names ← Json.sortedNames names
      .error (Fault.occupied "network" network names)

def sshKeys : String := "ssh-keys"

/-- The entries of a key list: its lines that are not blank. -/
def entries (value : String) : List String :=
  (Text.splitLines value).filter fun line => Text.strip line ≠ ""

def withoutKey (publicKey : String) (lines : List String) : List String :=
  lines.filter fun line => !Text.occursIn publicKey.toList line.toList

/-- Removes a public key from the project's list of keys. -/
def deleteKey (t : Tool) (publicKey : String) : Act Host Unit := do
  let key := Text.strip publicKey
  if key = "" then Host.note Log.debug logger "No public key recorded, nothing to delete"
  else
    let metadata ← t.metadata
    let value ← Act.ofExcept (match (Tool.Metadata.get? metadata sshKeys).getD (.str "") with
      | .str s => .ok s
      | .unpaired points => .error (.unencodable (Spelling.firstHalves points))
      | v => .error (.noAttribute v.kindName "splitlines"))
    let lines := entries value
    let kept := withoutKey key lines
    if kept.length = lines.length then
      Host.note Log.info logger "Public key not present in project metadata"
    else
      if kept.isEmpty then t.removeMetadata sshKeys
      else t.setMetadata sshKeys ("\n".intercalate kept)
      Host.note Log.info logger
        ("Removed " ++ toString (lines.length - kept.length) ++ " ssh key(s) from project metadata")

end Dismantle.Gcloud
