import Dismantle.Aws.Manager
import Dismantle.Fault.Classify
import Dismantle.Text.Search
import Dismantle.Teardown.Call
/-! Stacks: describing one, and deleting one and waiting until it is gone. -/
namespace Dismantle.Aws

def stackLogger : String := "envteardown.providers.cloudformation"

/-- Whether a service says that a stack does not exist. -/
def saysMissing (f : ServiceFault) : Bool :=
  f.code = some "ValidationError" && Text.occursIn "does not exist".toList (f.message.getD "").toList

def about (kind id service operation : String) : Circumstances := {
  resourceId := some id, resourceType := some kind, service := some service
  serviceOperation := some operation }

def keyOf : Json → Spelling
  | .unpaired points => .broken points
  | v => .plain v.display

def outputOf (v : Json) : Except Fault (Spelling × Json) := do
  let key ← v.demand "OutputKey"
  let value ← v.find "OutputValue" (.str "")
  return (keyOf key, value)

/-- The first stack of an answer; one whose deletion is complete is missing. -/
def describedStack (name : String) (answer : Json) : Except Fault Teardown.StackDescription := do
  let found ← answer.find "Stacks" (.arr [])
  if !found.counts then .error (.missingStack name)
  let stack ← found.first
  if (← stack.find "StackStatus" .null).same (.str "DELETE_COMPLETE") then .error (.missingStack name)
  let outputs ← (← (← stack.find "Outputs" (.arr [])).each).mapM outputOf
  let stackName ← stack.demand "StackName"
  let status ← stack.find "StackStatus" (.str "")
  return { name := stackName, status, outputs := Fields.ofPairs outputs }

namespace Desk

/-- Gives the report on a refused request under its circumstances; other faults stay as they are. -/
def reporting {α : Type} (c : Circumstances) (act : Act Desk α) : Act Desk α :=
  act.mapFault fun
    | .service f => (Fault.service f).classify c
    | f => f

def describeStack (name : String) : Act Desk Teardown.StackDescription := do
  let _ ← client "cloudformation"
  match ← Act.attempt (request "cloudformation.describe_stacks" [("StackName", .str name)]) with
  | .ok answer => Act.ofExcept (describedStack name answer)
  | .error (.service f) =>
    if saysMissing f then Act.fail (.missingStack name)
    else Act.fail ((Fault.service f).classify (about "stack" name "cloudformation" "describe_stacks"))
  | .error f => Act.fail f

/-- How long to wait between two looks, and how often to look. -/
structure Patience where
  delay : Int := 15
  attempts : Int := 240

def waitArguments (name : String) (p : Patience) : Fields := [
  ("StackName", .str name),
  ("WaiterConfig", .obj [("Delay", .int p.delay), ("MaxAttempts", .int p.attempts)])]

def notDeleted (name : String) (f : Fault) (c : Circumstances) : Fault :=
  .reported .provisioning ("stack " ++ name ++ " was not deleted: " ++ f.text) c (some f)
    ["Check the stack events in the CloudFormation console",
     "Re-run destroy once the blocking resources are removed"]

def deleteStack (p : Patience) (name : String) : Act Desk Unit := do
  let _ ← client "cloudformation"
  let c := about "stack" name "cloudformation" "delete_stack"
  let _ ← reporting c (request "cloudformation.delete_stack" [("StackName", .str name)])
  note Log.info stackLogger ("Waiting for stack " ++ name ++ " to be deleted")
  match ← Act.attempt (request "cloudformation.wait.stack_delete_complete" (waitArguments name p)) with
  | .error (.waiter w reason) => Act.fail (notDeleted name (.waiter w reason) c)
  | .error f => Act.fail f
  | .ok _ => note Log.info stackLogger ("Stack " ++ name ++ " deleted")

end Desk
end Dismantle.Aws
