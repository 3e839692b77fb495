import Dismantle.Environment.Basic
/-! The written form of a record: every field, in the order of the record, under its key. -/
namespace Dismantle

mutual
/-- Data as a record holds it when written: numbers without a decimal form are left out, and keys are
text that bytes can spell. -/
def Json.settled : Json → Json
  | .float d => if d.isFinite then .float d else .null
  | .arr items => .arr (Json.settledItems items)
  | .obj fields => .obj (Fields.ofPairs (Json.settledFields fields))
  | v => v
def Json.settledItems : List Json → List Json
  | [] => []
  | x :: xs => x.settled :: Json.settledItems xs
def Json.settledFields : List (Spelling × Json) → List (Spelling × Json)
  | [] => []
  | (k, v) :: rest => (.plain k.shown, v.settled) :: Json.settledFields rest
end

section
variable {τ : Type} [Wording τ]

def AwsAccount.toJson (a : AwsAccount τ) : Json := .obj [
  ("access_key_id", .ofSpelling (Wording.spelling a.accessKeyId)),
  ("secret_access_key", .ofSpelling (Wording.spelling a.secretAccessKey)),
  ("region", .ofSpelling (Wording.spelling a.region))]

def GcpAccount.toJson (g : GcpAccount τ) : Json := .obj [
  ("service_account_key", .ofSpelling (Wording.spelling g.serviceAccountKey)),
  ("project_id", .ofSpelling (Wording.spelling g.projectId)),
  ("zone", .ofSpelling (Wording.spelling g.zone)),
  ("region", .ofSpelling (Wording.spelling g.region))]

def KeyPair.toJson (k : KeyPair τ) : Json := .obj [
  ("name", .ofSpelling (Wording.spelling k.name)),
  ("private_key", .ofSpelling (Wording.spelling k.privateKey)),
  ("public_key", .ofSpelling (Wording.spelling k.publicKey))]

def Director.toJson (d : Director τ) : Json := .obj [
  ("director_name", .ofSpelling (Wording.spelling d.name)),
  ("director_username", .ofSpelling (Wording.spelling d.username)),
  ("director_password", .ofSpelling (Wording.spelling d.password)),
  ("director_address", .ofSpelling (Wording.spelling d.address)),
  ("director_ssl_certificate", .ofSpelling (Wording.spelling d.sslCertificate)),
  ("director_ssl_private_key", .ofSpelling (Wording.spelling d.sslPrivateKey)),
  ("credentials", (Json.obj d.credentials.fields).settled),
  ("state", (Json.obj d.state).settled),
  ("manifest", .ofSpelling (Wording.spelling d.manifest))]

def Stack.toJson (s : Stack τ) : Json := .obj [
  ("name", .ofSpelling (Wording.spelling s.name)),
  ("lb_type", .ofSpelling (Wording.spelling s.lbType)),
  ("certificate_name", .ofSpelling (Wording.spelling s.certificateName))]

def Environment.toJson (e : Environment τ) : Json := .obj [
  ("version", .int e.version),
  ("iaas", .str e.provider.text),
  ("env_id", .ofSpelling (Wording.spelling e.envId)),
  ("aws", e.aws.toJson),
  ("gcp", e.gcp.toJson),
  ("key_pair", e.keyPair.toJson),
  ("bosh", e.director.toJson),
  ("stack", e.stack.toJson),
  ("tf_state", .ofSpelling (Wording.spelling e.tfState))]

end
end Dismantle
