import Dismantle.Aws.Network
/-! Deleting key pairs and certificates by name. One that the service does not know is deleted
already. -/
namespace Dismantle.Aws

def iamLogger : String := "envteardown.providers.iam"

namespace Desk

/-- Deletes something with one request. `gone` is the code by which the service says that it does
not know the thing; `thing` is what the log calls it. -/
def remove (logger thing gone name : String) (c : Circumstances) (act : Act Desk Json) :
    Act Desk Unit := do
  match ← Act.attempt act with
  | .ok _ => note Log.info logger ("Deleted " ++ thing.decapitalize ++ " " ++ name)
  | .error (.service f) =>
    if f.code = some gone then note Log.info logger (thing ++ " " ++ name ++ " already deleted")
    else Act.fail ((Fault.service f).classify c)
  | .error f => Act.fail f

def deleteKeyPair (name : String) : Act Desk Unit :=
  if name = "" then note Log.debug ec2Logger "No key pair recorded, nothing to delete"
  else do
    let _ ← client "ec2"
    remove ec2Logger "Key pair" "InvalidKeyPair.NotFound" name
      (about "key_pair" name "ec2" "delete_key_pair")
      (request "ec2.delete_key_pair" [("KeyName", .str name)])

def deleteCertificate (name : String) : Act Desk Unit := do
  let _ ← client "iam"
  remove iamLogger "Certificate" "NoSuchEntity" name
    (about "server_certificate" name "iam" "delete_server_certificate")
    (request "iam.delete_server_certificate" [("ServerCertificateName", .str name)])

end Desk
end Dismantle.Aws
