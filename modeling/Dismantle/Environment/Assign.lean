import Dismantle.Environment.Check
/-! Changing one field of a record under the checks that reading applies, and storing an item in
one of its mappings without any. -/
namespace Dismantle

/-- Why a field could not be changed: no such place, a place that holds no items, or a value that
the field does not take. -/
inductive AssignFault where
  | noPlace | noItems | invalid (i : Invalid)
  deriving DecidableEq, Repr

open Check

/-- The outcome of one checked assignment to the field `key` of a section. -/
def assigned {α β : Type} (title key : String) (c : Check β) (put : β → α) : Except AssignFault α :=
  match (c.under key).result title with
  | .ok v => .ok (put v)
  | .error i => .error (.invalid i)

def noField {α : Type} (title key : String) : Except AssignFault α :=
  .error (.invalid ⟨title, [⟨[.name key], .noAttribute key⟩]⟩)

section
variable {τ : Type} [Wording τ]

def AwsAccount.assign (a : AwsAccount τ) (key : String) (v : Json) : Except AssignFault (AwsAccount τ) :=
  match key with
  | "access_key_id" => assigned title key (text v) fun accessKeyId => { a with accessKeyId }
  | "secret_access_key" => assigned title key (text v) fun secretAccessKey => { a with secretAccessKey }
  | "region" => assigned title key (text v) fun region => { a with region }
  | _ => noField title key

def GcpAccount.assign (g : GcpAccount τ) (key : String) (v : Json) : Except AssignFault (GcpAccount τ) :=
  match key with
  | "service_account_key" =>
    assigned title key (text v) fun serviceAccountKey => { g with serviceAccountKey }
  | "project_id" => assigned title key (text v) fun projectId => { g with projectId }
  | "zone" => assigned title key (text v) fun zone => { g with zone }
  | "region" => assigned title key (text v) fun region => { g with region }
  | _ => noField title key

def KeyPair.assign (k : KeyPair τ) (key : String) (v : Json) : Except AssignFault (KeyPair τ) :=
  match key with
  | "name" => assigned title key (text v) fun name => { k with name }
  | "private_key" => assigned title key (text v) fun privateKey => { k with privateKey }
  | "public_key" => assigned title key (text v) fun publicKey => { k with publicKey }
  | _ => noField title key

def Director.assign (d : Director τ) (key : String) (v : Json) : Except AssignFault (Director τ) :=
  match key with
  | "director_name" => assigned title key (text v) fun name => { d with name }
  | "director_username" => assigned title key (text v) fun username => { d with username }
  | "director_password" => assigned title key (text v) fun password => { d with password }
  | "director_address" => assigned title key (text v) fun address => { d with address }
  | "director_ssl_certificate" =>
    assigned title key (text v) fun sslCertificate => { d with sslCertificate }
  | "director_ssl_private_key" =>
    assigned title key (text v) fun sslPrivateKey => { d with sslPrivateKey }
  | "credentials" => assigned title key (entries v) fun credentials => { d with credentials }
  | "state" => assigned title key (mapping v) fun state => { d with state }
  | "manifest" => assigned title key (text v) fun manifest => { d with manifest }
  | _ => noField title key

def Stack.assign (s : Stack τ) (key : String) (v : Json) : Except AssignFault (Stack τ) :=
  match key with
  | "name" => assigned title key (text v) fun name => { s with name }
  | "lb_type" => assigned title key (text v) fun lbType => { s with lbType }
  | "certificate_name" => assigned title key (text v) fun certificateName => { s with certificateName }
  | _ => noField title key

namespace Environment

def assignField (e : Environment τ) (key : String) (v : Json) : Except AssignFault (Environment τ) :=
  match key with
  | "version" => assigned title key (whole v) fun version => { e with version }
  | "iaas" => assigned title key (Check.provider v) fun provider => { e with provider }
  | "env_id" => assigned title key (text v) fun envId => { e with envId }
  | "aws" => assigned title key (AwsAccount.check v) fun aws => { e with aws }
  | "gcp" => assigned title key (GcpAccount.check v) fun gcp => { e with gcp }
  | "key_pair" => assigned title key (KeyPair.check v) fun keyPair => { e with keyPair }
  | "bosh" => assigned title key (Director.check v) fun director => { e with director }
  | "stack" => assigned title key (Stack.check v) fun stack => { e with stack }
  | "tf_state" => assigned title key (text v) fun tfState => { e with tfState }
  | _ => noField title key

/-- Assigns to the field that a list of keys leads to. -/
def assign (e : Environment τ) (keys : List String) (v : Json) : Except AssignFault (Environment τ) :=
  match keys with
  | [key] => e.assignField key v
  | ["aws", key] => (e.aws.assign key v).map fun aws => { e with aws }
  | ["gcp", key] => (e.gcp.assign key v).map fun gcp => { e with gcp }
  | ["key_pair", key] => (e.keyPair.assign key v).map fun keyPair => { e with keyPair }
  | ["bosh", key] => (e.director.assign key v).map fun director => { e with director }
  | ["stack", key] => (e.stack.assign key v).map fun stack => { e with stack }
  | _ => .error .noPlace

def sectionKeys : String → List String
  | "aws" => AwsAccount.keys
  | "gcp" => GcpAccount.keys
  | "key_pair" => KeyPair.keys
  | "bosh" => Director.keys
  | "stack" => Stack.keys
  | _ => []

/-- Whether a list of keys leads to a section or a field. -/
def hasPlace : List String → Bool
  | [key] => keys.contains key
  | [head, key] => (sectionKeys head).contains key
  | _ => false

/-- Stores an item in one of the director's mappings. -/
def putItem (e : Environment τ) (keys : List String) (key : String) (v : Json) :
    Except AssignFault (Environment τ) :=
  match keys with
  | ["bosh", "credentials"] =>
    .ok { e with director := { e.director with credentials := Fields.put e.director.credentials key (.ofJson v) } }
  | ["bosh", "state"] =>
    .ok { e with director := { e.director with state := Fields.put e.director.state key v } }
  | _ => .error (if hasPlace keys then .noItems else .noPlace)

end Environment
end
end Dismantle
