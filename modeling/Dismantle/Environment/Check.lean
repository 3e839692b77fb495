import Dismantle.Environment.Basic
import Dismantle.Check
import Dismantle.Json.Reader
import Dismantle.Text.Blank
/-! Reading a record from structured data. Text must be text, sections must be objects with known
keys, and a missing field has its default. Known fields are reported in the order of the record,
unknown keys after them in the order they were given. -/
namespace Dismantle

namespace Check

def text {τ : Type} [Wording τ] (v : Json) : Check τ :=
  match v.spelling? with
  | some s => match Wording.ofSpelling? s with
    | some t => pure t
    | none => fail Wording.blank .brokenText
  | none => fail Wording.blank .notText

/-- Leading zeros go, and underscores with them; what stands in front of a point or at the end is
left. -/
def dropLeadingZeros : List Char → List Char
  | '0' :: rest =>
    let zeros := '0' :: rest.takeWhile fun c => c = '0' ∨ c = '_'
    match rest.drop (zeros.length - 1) with
    | [] => zeros.getLast?.toList
    | '.' :: cs => zeros.getLast?.toList ++ '.' :: cs
    | cs => cs
  | cs => cs

/-- Underscores may stand alone between other characters. -/
def dropUnderscores (cs : List Char) : Option (List Char) :=
  let rec lone : List Char → Bool
    | '_' :: '_' :: _ => false
    | _ :: rest => lone rest
    | [] => true
  if cs.head? = some '_' ∨ cs.getLast? = some '_' ∨ !lone cs then none
  else some (cs.filter (· ≠ '_'))

/-- A point followed by nothing but zeros, at least one, adds nothing. -/
def dropZeroPlaces (cs : List Char) : List Char :=
  let whole := cs.takeWhile (· ≠ '.')
  match cs.dropWhile (· ≠ '.') with
  | '.' :: '0' :: places => if places.all (· = '0') then whole else cs
  | _ => cs

/-- A whole number written as text: white space around it, a sign, single underscores between
digits, leading zeros and places of zeros are allowed. -/
def wholeText (s : String) : Except Problem Int :=
  let cs := Text.trimEnds Text.isSpace s.toList
  let (negative, cs) : Bool × List Char := match cs with
    | '-' :: rest => (true, rest)
    | '+' :: rest => (false, rest)
    | cs => (false, cs)
  match dropUnderscores (dropZeroPlaces (dropLeadingZeros cs)) with
  | none => .error .unreadableNumber
  | some ds =>
    if ds.isEmpty ∨ !ds.all Json.isDigit then .error .unreadableNumber
    else if Json.maxDigits < ds.length then .error .tooLarge
    else
      let n : Int := Json.natOf ds
      .ok (if negative then -n else n)

/-- Whole numbers are read from truth values, from numbers without a fraction below `2 ^ 63` in
size and from text. -/
def whole : Json → Check Int
  | .int i => pure i
  | .bool b => pure (if b then 1 else 0)
  | .float d =>
    if !d.isFinite then fail 0 .notFinite
    else match d.toInt? with
      | some i => if i.natAbs < twoTo 63 then pure i else fail 0 .tooLarge
      | none => fail 0 .fractional
  | .str s => match wholeText s with
    | .ok i => pure i
    | .error p => fail 0 p
  | _ => fail 0 .notWhole

def provider : Json → Check Provider
  | .str s => match Provider.all.find? (·.text == s) with
    | some p => pure p
    | none => fail .unset .notProvider
  | _ => fail .unset .notProvider

def mapping : Json → Check Fields
  | .obj fields => pure fields
  | _ => fail [] .notMapping

def entries (v : Json) : Check Yaml.Entries := Yaml.Entries.ofFields <$> mapping v

/-- The value under a key, or the default where the key is missing. -/
def field {α : Type} (fs : Fields) (key : String) (default : α) (check : Json → Check α) :
    Check α :=
  match fs.get? key with
  | some v => (check v).under key
  | none => pure default

def textField {τ : Type} [Wording τ] (fs : Fields) (key : String) : Check τ :=
  field fs key Wording.blank text

/-- A section: an object whose keys are all known. A key with half of a surrogate pair in it is all
that is said of the section. -/
def sectionOf {α : Type} (title : String) (known : List String) (default : α)
    (fields : Fields → Check α) : Json → Check α
  | .obj fs => match (fs.map (·.1)).mapM Spelling.text? with
    | some names => do
      let a ← fields fs
      unknownKeys known names
      return a
    | none => fail default .brokenText
  | _ => fail default (.notSection title)

end Check

open Check

def AwsAccount.title : String := "AWSState"
def GcpAccount.title : String := "GCPState"
def KeyPair.title : String := "KeyPair"
def Director.title : String := "BOSHState"
def Stack.title : String := "StackState"
def Environment.title : String := "State"

/-- The keys of each section and of the record itself, in order. -/
def AwsAccount.keys : List String := ["access_key_id", "secret_access_key", "region"]
def GcpAccount.keys : List String := ["service_account_key", "project_id", "zone", "region"]
def KeyPair.keys : List String := ["name", "private_key", "public_key"]
def Director.keys : List String :=
  ["director_name", "director_username", "director_password", "director_address",
   "director_ssl_certificate", "director_ssl_private_key", "credentials", "state", "manifest"]
def Stack.keys : List String := ["name", "lb_type", "certificate_name"]
def Environment.keys : List String :=
  ["version", "iaas", "env_id", "aws", "gcp", "key_pair", "bosh", "stack", "tf_state"]

section
variable {τ : Type} [Wording τ]

def AwsAccount.check : Json → Check (AwsAccount τ) :=
  sectionOf title keys {} fun fs => do
    let accessKeyId ← textField fs "access_key_id"
    let secretAccessKey ← textField fs "secret_access_key"
    let region ← textField fs "region"
    return { accessKeyId, secretAccessKey, region }

def GcpAccount.check : Json → Check (GcpAccount τ) :=
  sectionOf title keys {} fun fs => do
    let serviceAccountKey ← textField fs "service_account_key"
    let projectId ← textField fs "project_id"
    let zone ← textField fs "zone"
    let region ← textField fs "region"
    return { serviceAccountKey, projectId, zone, region }

def KeyPair.check : Json → Check (KeyPair τ) :=
  sectionOf title keys {} fun fs => do
    let name ← textField fs "name"
    let privateKey ← textField fs "private_key"
    let publicKey ← textField fs "public_key"
    return { name, privateKey, publicKey }

def Director.check : Json → Check (Director τ) :=
  sectionOf title keys {} fun fs => do
    let name ← textField fs "director_name"
    let username ← textField fs "director_username"
    let password ← textField fs "director_password"
    let address ← textField fs "director_address"
    let sslCertificate ← textField fs "director_ssl_certificate"
    let sslPrivateKey ← textField fs "director_ssl_private_key"
    let credentials ← field fs "credentials" [] entries
    let state ← field fs "state" [] mapping
    let manifest ← textField fs "manifest"
    return { name, username, password, address, sslCertificate, sslPrivateKey, credentials,
             state, manifest }

def Stack.check : Json → Check (Stack τ) :=
  sectionOf title keys {} fun fs => do
    let name ← textField fs "name"
    let lbType ← textField fs "lb_type"
    let certificateName ← textField fs "certificate_name"
    return { name, lbType, certificateName }

def Environment.check : Json → Check (Environment τ) :=
  sectionOf title keys {} fun fs => do
    let version ← field fs "version" recordVersion whole
    let provider ← field fs "iaas" .unset Check.provider
    let envId ← textField fs "env_id"
    let aws ← field fs "aws" {} AwsAccount.check
    let gcp ← field fs "gcp" {} GcpAccount.check
    let keyPair ← field fs "key_pair" {} KeyPair.check
    let director ← field fs "bosh" {} Director.check
    let stack ← field fs "stack" {} Stack.check
    let tfState ← textField fs "tf_state"
    return { version, provider, envId, aws, gcp, keyPair, director, stack, tfState }

/-- The record that structured data describes. -/
def Environment.ofJson (v : Json) : Except Invalid (Environment τ) :=
  (Environment.check v).result Environment.title

end
end Dismantle
