import Dismantle.Environment.Basic
/-! What a teardown asks of its surroundings, and what each question is answered with. -/
namespace Dismantle.Teardown

/-- A stack as its service describes it. -/
structure StackDescription where
  name : Json
  status : Json := .str ""
  outputs : Fields := []
  deriving Repr, Inhabited

/-- The output that names a stack's network. -/
def vpcOutput : String := "VPCID"

/-- The identifier of the stack's network; a stack without one has an empty text there. -/
def StackDescription.vpcId (s : StackDescription) : Json := (s.outputs.get? vpcOutput).getD (.str "")

/-- Identifiers of an environment on GCP, as its Terraform state has them. -/
structure Outputs where
  externalIp : String := ""
  networkName : String := ""
  subnetworkName : String := ""
  boshTag : String := ""
  internalTag : String := ""
  directorAddress : String := ""
  deriving DecidableEq, Repr, Inhabited

/-- What Terraform needs for destroying an infrastructure. -/
structure Destruction where
  credentials : Spelling
  envId : String
  projectId : String
  zone : String
  region : String
  tfState : Spelling
  template : Spelling
  deriving DecidableEq, Repr

inductive Call where
  | validateRecord (e : Environment)
  | prompt (text : String)
  | step (text : String)
  | note (text : String)
  | terraformVersion
  | validateAws (account : AwsAccount)
  | validateGcp (account : GcpAccount)
  | deleteDirector (e : Environment)
  | describeStack (name : String)
  | checkVpc (id : Json)
  | deleteStack (name : String)
  | deleteCertificate (name : String)
  | deleteAwsKeyPair (name : String)
  | terraformOutputs (e : Environment)
  | checkNetwork (name : String)
  | terraformDestroy (d : Destruction)
  | deleteGcpKeyPair (publicKey : String)
  | save (e : Environment)
  deriving Repr

/-- What a call that succeeds gives back. -/
def Call.Answer : Call → Type
  | .prompt _ | .terraformVersion | .terraformDestroy _ => String
  | .describeStack _ => StackDescription
  | .terraformOutputs _ => Outputs
  | _ => Unit

end Dismantle.Teardown
