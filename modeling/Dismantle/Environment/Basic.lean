import Dismantle.Yaml.Plain
/-! What is known of an environment: where it was created, with which credentials, and every
resource that still has to be taken down. An empty field means that there is nothing to do. A file may
hold a record with halves in its texts; what is taken down has records of text alone. -/
namespace Dismantle

/-- The provider an environment was created on. Records older than this field leave it unset. -/
inductive Provider where
  | unset | aws | gcp
  deriving DecidableEq, Repr, Inhabited

def Provider.all : List Provider := [.unset, .aws, .gcp]

def Provider.text : Provider → String
  | .unset => ""
  | .aws => "aws"
  | .gcp => "gcp"

structure AwsAccount (τ : Type := String) [Wording τ] where
  accessKeyId : τ := Wording.blank
  secretAccessKey : τ := Wording.blank
  region : τ := Wording.blank
  deriving DecidableEq, Repr, Inhabited

structure GcpAccount (τ : Type := String) [Wording τ] where
  serviceAccountKey : τ := Wording.blank
  projectId : τ := Wording.blank
  zone : τ := Wording.blank
  region : τ := Wording.blank
  deriving DecidableEq, Repr, Inhabited

/-- The name serves AWS, the public key GCP. -/
structure KeyPair (τ : Type := String) [Wording τ] where
  name : τ := Wording.blank
  privateKey : τ := Wording.blank
  publicKey : τ := Wording.blank
  deriving DecidableEq, Repr, Inhabited

/-- Everything that deleting the director needs: its manifest, the state its deployment left
and the credentials it was created with. These may be values that only YAML has. -/
structure Director (τ : Type := String) [Wording τ] where
  name : τ := Wording.blank
  username : τ := Wording.blank
  password : τ := Wording.blank
  address : τ := Wording.blank
  sslCertificate : τ := Wording.blank
  sslPrivateKey : τ := Wording.blank
  credentials : Yaml.Entries := []
  state : Fields := []
  manifest : τ := Wording.blank
  deriving Repr, Inhabited

structure Stack (τ : Type := String) [Wording τ] where
  name : τ := Wording.blank
  lbType : τ := Wording.blank
  certificateName : τ := Wording.blank
  deriving DecidableEq, Repr, Inhabited

/-- The record format that this library tears down. -/
def recordVersion : Int := 3

structure Environment (τ : Type := String) [Wording τ] where
  version : Int := recordVersion
  provider : Provider := .unset
  envId : τ := Wording.blank
  aws : AwsAccount τ := {}
  gcp : GcpAccount τ := {}
  keyPair : KeyPair τ := {}
  director : Director τ := {}
  stack : Stack τ := {}
  tfState : τ := Wording.blank
  deriving Repr, Inhabited

section
open Wording (blank)
variable {τ : Type} [Wording τ] [DecidableEq τ]

def Director.isEmpty (d : Director τ) : Bool :=
  d.name == blank && d.username == blank && d.password == blank && d.address == blank
    && d.sslCertificate == blank && d.sslPrivateKey == blank && d.credentials.isEmpty
    && d.state.isEmpty && d.manifest == blank

/-- Nothing is recorded; the version does not count. -/
def Environment.isEmpty (e : Environment τ) : Bool :=
  e.provider == .unset && e.envId == blank && e.aws == {} && e.gcp == {} && e.keyPair == {}
    && e.director.isEmpty && e.stack == {} && e.tfState == blank

def Director.same (a b : Director τ) : Bool :=
  a.name == b.name && a.username == b.username && a.password == b.password
    && a.address == b.address && a.sslCertificate == b.sslCertificate
    && a.sslPrivateKey == b.sslPrivateKey && (Json.obj a.credentials.fields).same (.obj b.credentials.fields)
    && (Json.obj a.state).same (.obj b.state) && a.manifest == b.manifest

/-- Equality of records; structured data is compared by value. -/
def Environment.same (a b : Environment τ) : Bool :=
  a.version == b.version && a.provider == b.provider && a.envId == b.envId && a.aws == b.aws
    && a.gcp == b.gcp && a.keyPair == b.keyPair && a.director.same b.director
    && a.stack == b.stack && a.tfState == b.tfState

end
end Dismantle
