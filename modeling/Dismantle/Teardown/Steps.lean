import Dismantle.Teardown.Task
import Dismantle.Terraform.Template
/-! The steps of a teardown: the director, then what the provider holds. Each step does nothing for
what is not recorded, clears what it has deleted from the record, and saves it at once. -/
namespace Dismantle.Teardown

def named (name : String) : String := if name = "" then "(unnamed)" else name

def directorLogger : String := "envteardown.teardown.director"

/-- What is said of a deletion that failed when something was left to record. -/
def partialDirectorText (f : Fault) : String :=
  "Director deletion failed, saving partial director state: " ++ f.text

/-- Deletes the director. A deletion that changed the director and failed leaves what is left of
it on record. -/
def deleteDirector : Task Unit := do
  let e ← Task.env
  if e.director.isEmpty then
    Task.tell (.note "no BOSH director, skipping...")
  else
    Task.tell (.step "destroying bosh director")
    Task.log Log.info directorLogger ("Deleting BOSH director " ++ named e.director.name)
    match ← Task.attempt (Task.tell (.deleteDirector e)) with
    | .error (.directorLeft left cause) =>
      let f := Fault.directorLeft left cause
      Task.log Log.warning directorLogger (partialDirectorText f)
      Task.change fun e => { e with director := left.director }
      Task.checkpointThenFail "partial director deletion" f
    | .error f => Task.fail f
    | .ok () =>
      Task.change fun e => { e with director := {} }
      Task.checkpoint "director deletion"

def awsLogger : String := "envteardown.teardown.aws"

def noStack : Task Unit := Task.tell (.note "no AWS stack, skipping...")

/-- Deletes the stack, unless it is gone. Its network must not hold anything else. -/
def deleteStack : Task Unit := do
  let e ← Task.env
  let name := e.stack.name
  if name = "" then noStack
  else match ← Task.attempt (Task.ask (.describeStack name)) with
    | .error (.missingStack _) =>
      Task.log Log.info awsLogger ("Stack " ++ name ++ " no longer exists")
      noStack
    | .error f => Task.fail f
    | .ok stack =>
      Task.tell (.checkVpc (StackDescription.vpcId stack))
      Task.tell (.step "destroying AWS stack")
      Task.tell (.deleteStack name)
      Task.change fun e => { e with stack := { e.stack with name := "", lbType := "" } }
      Task.checkpoint "stack deletion"

/-- Deletes the load balancer's certificate, which outlives the stack. -/
def deleteCertificate : Task Unit := do
  let e ← Task.env
  if e.stack.certificateName ≠ "" then
    Task.tell (.step "deleting certificate")
    Task.tell (.deleteCertificate e.stack.certificateName)
    Task.change fun e => { e with stack := { e.stack with certificateName := "" } }
    Task.checkpoint "certificate deletion"

/-- Stack and certificate: all there is in records that name no provider. -/
def tearDownStack : Task Unit := do
  deleteStack
  deleteCertificate

/-- The key pair goes last. Deleting it is tried even without a recorded name. -/
def tearDownAws : Task Unit := do
  tearDownStack
  Task.tell (.step "deleting keypair")
  let e ← Task.env
  Task.tell (.deleteAwsKeyPair e.keyPair.name)
  Task.change fun e => { e with keyPair := {} }
  Task.checkpoint "key pair deletion"

def gcpLogger : String := "envteardown.teardown.gcp"

/-- What Terraform is given to destroy an environment's infrastructure. -/
def destruction (e : Environment) : Destruction :=
  { credentials := e.gcp.serviceAccountKey
    envId := e.envId
    projectId := e.gcp.projectId
    zone := e.gcp.zone
    region := e.gcp.region
    tfState := e.tfState
    template := Terraform.template }

/-- Destroys the infrastructure; the state that a failed attempt leaves is kept on record. -/
def destroyInfrastructure : Task Unit := do
  let e ← Task.env
  match ← Task.attempt (Task.ask (.terraformDestroy (destruction e))) with
  | .error (.infrastructureLeft tfState cause) =>
    let f := Fault.infrastructureLeft tfState cause
    Task.log Log.warning gcpLogger ("terraform destroy failed, saving partial state: " ++ f.text)
    Task.change fun e => { e with tfState }
    Task.checkpointThenFail "partial terraform destroy" f
  | .error f => Task.fail f
  | .ok tfState => Task.change fun e => { e with tfState := tfState }

/-- Infrastructure and key pair. Nothing is saved until both are gone. -/
def tearDownGcp : Task Unit := do
  let e ← Task.env
  let outputs ← Task.ask (.terraformOutputs e)
  Task.tell (.checkNetwork (Outputs.networkName outputs))
  Task.tell (.step "destroying infrastructure")
  destroyInfrastructure
  Task.tell (.step "deleting keypair")
  Task.tell (.deleteGcpKeyPair e.keyPair.publicKey)
  Task.change fun e => { e with keyPair := {}, tfState := "" }
  Task.checkpoint "terraform destroy and key pair deletion"

def tearDown : Provider → Task Unit
  | .unset => tearDownStack
  | .aws => tearDownAws
  | .gcp => tearDownGcp

end Dismantle.Teardown
