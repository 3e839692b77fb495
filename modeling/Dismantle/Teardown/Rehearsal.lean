import Dismantle.Environment.Store
import Dismantle.Json.Display
import Dismantle.Teardown.Program
/-! Rehearsing a teardown: every call is noted and answered from a script, which may let any of
them fail. Records are kept in memory, and in a file as well if there is a store. -/
namespace Dismantle.Teardown

structure Script where
  answer : String := "yes"
  version : String := "0.8.7"
  stack : StackDescription :=
    { name := .str "some-stack", outputs := [(vpcOutput, .str "some-vpc")] }
  outputs : Except Fault Outputs := .ok { networkName := "some-network" }
  /-- What is left after destroying the infrastructure; it should be text. -/
  destroyed : Json := .str ""
  fault : Call → Option Fault := fun _ => none
  /-- The fault of a saving, by its place among the savings of the run. -/
  saveFault : Nat → Option Fault := fun _ => none

/-- A rehearsal as far as it has come. -/
structure Stage where
  host : Host := {}
  store : Option Store := none
  calls : List Call := []
  saves : Nat := 0
  /-- The record saved last. -/
  kept : Environment
  deriving Inhabited

namespace Stage

/-- Lets the host do something under the tags of a call. -/
def onHost {α : Type} (tags : Log.Tags) (act : Act Host α) : Act Stage α := fun s =>
  let (r, host) := act { s.host with journal := { s.host.journal with tags } }
  (r, { s with host := { host with journal := { host.journal with tags := s.host.journal.tags } } })

def validate (tags : Log.Tags) (e : Environment) : Act Stage Unit := fun s =>
  match s.store with
  | some store => onHost tags (store.validate e) s
  | none => (.ok (), s)

/-- Saves a record unless the script has this saving fail. -/
def save (script : Script) (tags : Log.Tags) (e : Environment) : Act Stage Unit := fun s =>
  let place := s.saves
  let s := { s with saves := place + 1 }
  match script.saveFault place with
  | some f => (.error f, s)
  | none =>
    let (r, s) : Except Fault Unit × Stage := match s.store with
      | some store => onHost tags (store.save e) s
      | none => (.ok (), s)
    match r with
    | .ok () => (.ok (), { s with kept := e })
    | .error f => (.error f, s)

def leftState (v : Json) : Except Fault String :=
  ((Check.text v).under "tf_state").result Environment.title |>.mapError .invalid

/-- The script's answer to a call that it does not let fail. -/
def reply (script : Script) (tags : Log.Tags) : (c : Call) → Act Stage c.Answer
  | .validateRecord e => validate tags e
  | .save e => save script tags e
  | .prompt _ => (pure script.answer : Act Stage String)
  | .terraformVersion => (pure script.version : Act Stage String)
  | .describeStack _ => (pure script.stack : Act Stage StackDescription)
  | .terraformOutputs _ => (Act.ofExcept script.outputs : Act Stage Outputs)
  | .terraformDestroy _ => (Act.ofExcept (leftState script.destroyed) : Act Stage String)
  | .step _ | .note _ | .validateAws _ | .validateGcp _ | .deleteDirector _ | .checkVpc _
  | .deleteStack _ | .deleteCertificate _ | .deleteAwsKeyPair _ | .checkNetwork _
  | .deleteGcpKeyPair _ => (pure () : Act Stage Unit)

def answer (script : Script) (tags : Log.Tags) (c : Call) : Act Stage c.Answer := fun s =>
  let s := { s with calls := s.calls ++ [c] }
  match script.fault c with
  | some f => (.error f, s)
  | none => reply script tags c s

def handler (script : Script) : Handler Stage where
  log r s := { s with host := { s.host with journal := s.host.journal.add r } }
  answer := answer script

/-- A run's calls and savings are counted from its start. -/
def fresh (s : Stage) : Stage := { s with calls := [], saves := 0 }

end Stage
end Dismantle.Teardown
