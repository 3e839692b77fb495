import Dismantle.Aws.Stack
/-! Guarding a stack's network that holds instances which are not the stack's own. -/
namespace Dismantle.Aws

def ec2Logger : String := "envteardown.providers.ec2"

/-- Instances that the stack or the director's deployment owns. -/
def ownNames : List String := ["NAT", "bosh/0"]

def nameTag : List Json → Except Fault Json
  | [] => .ok (.str "")
  | tag :: rest => do
    if (← tag.find "Key" .null).same (.str "Name") then tag.find "Value" (.str "") else nameTag rest

def instanceName (instance_ : Json) : Except Fault Json := do
  nameTag (← (← instance_.find "Tags" (.arr [])).each)

def foreignName? (instance_ : Json) : Except Fault (Option Json) := do
  let name ← instanceName instance_
  if ownNames.any fun own => name.same (.str own) then return none
  return some (if name.counts then name else .str "unnamed")

def foreignInReservation (reservation : Json) : Except Fault (List Json) := do
  let instances ← (← reservation.find "Instances" (.arr [])).each
  return (← instances.mapM foreignName?).filterMap id

def foreignOnPage (page : Json) : Except Fault (List Json) := do
  let reservations ← (← page.find "Reservations" (.arr [])).each
  return (← reservations.mapM foreignInReservation).flatten

def foreignInListing (reply : CloudReply) : Except Fault (List Json) := do
  let found ← reply.pages.mapM foreignOnPage
  match reply.fault with
  | some f => .error f
  | none => return found.flatten

def listArguments (id : Json) : Fields := [
  ("Filters", .arr [
    .obj [("Name", .str "vpc-id"), ("Values", .arr [id])],
    .obj [("Name", .str "instance-state-name"),
      ("Values", .arr [.str "pending", .str "running", .str "stopping", .str "stopped"])]])]

namespace Desk

/-- Fails while the network holds an instance that is not the stack's own. -/
def checkVpc (id : Json) : Act Desk Unit :=
  if !id.counts then note Log.debug ec2Logger "Stack has no VPC output, nothing to check"
  else do
    let _ ← client "ec2"
    let c := about "vpc" id.display "ec2" "describe_instances"
    let reply ← call "ec2.paginate.describe_instances" (listArguments id)
    let names ← reporting c (Act.ofExcept (foreignInListing reply))
    if names.isEmpty then return ()
    let names ← Act.ofExcept (Json.sortedNames names)
    Act.fail (Fault.occupied "vpc" id.display names)

end Desk
end Dismantle.Aws
