import Dismantle.Fault.Text
import Dismantle.Host.Basic
import Dismantle.Json.Access
/-! Sessions and clients of a service account. They are made when first needed and kept until they
are cleared, and so is the identity once it has been verified. -/
namespace Dismantle.Aws

/-- The keys that sessions are opened with; without both a profile or the default is used. -/
structure Keys where
  accessKeyId : Option String := none
  secretAccessKey : Option String := none
  region : Option String := none
  profile : Option Spelling := none
  deriving DecidableEq, Repr

/-- A manager's sessions are told apart by their numbers. -/
structure Session where
  number : Nat
  region : Option String
  deriving DecidableEq, Repr

/-- A client keeps the session that it was made from. -/
structure Client where
  number : Nat
  session : Session
  deriving DecidableEq, Repr

/-- Who a session's credentials belong to. -/
structure Identity where
  account : Json
  user : Json
  userId : Json
  region : Option String
  deriving Repr

/-- `opened` counts the sessions and `made` the clients so far; each has a number of its own. -/
structure Manager where
  keys : Keys
  session : Option Session := none
  clients : List (String × Client) := []
  identity : Option Identity := none
  opened : Nat := 0
  made : Nat := 0
  deriving Repr

/-- Work with a service on a host. -/
structure Desk where
  host : Host
  manager : Manager

def logger : String := "envteardown.utils.aws_client"

def present? (s : Option String) : Option String := s.filter (· ≠ "")

def named? (s : Option Spelling) : Option Spelling := s.filter (· ≠ "")

def textField (key : String) : Option String → Fields
  | some s => [(key, .str s)]
  | none => []

def Keys.arguments (k : Keys) : Fields :=
  (match present? k.accessKeyId, present? k.secretAccessKey with
    | some id, some secret => [("aws_access_key_id", .str id), ("aws_secret_access_key", .str secret)]
    | _, _ => match named? k.profile with
      | some p => [("profile_name", .ofSpelling p)]
      | none => [])
  ++ textField "region_name" (present? k.region)

def Keys.source (k : Keys) : String :=
  match present? k.accessKeyId, present? k.secretAccessKey with
  | some _, some _ => "state file"
  | _, _ => ((named? k.profile).map Spelling.shown).getD "default"

def Keys.open_ (k : Keys) (number : Nat) : Session := ⟨number, present? k.region⟩

namespace Desk

def onHost {α : Type} (act : Act Host α) : Act Desk α :=
  Act.onPart (·.host) (fun d host => { d with host }) act

def note (level : Log.Level) (logger message : String) : Act Desk Unit :=
  onHost (Host.note level logger message)

/-- Notes that something was made for the service. -/
def record (name : String) (arguments : Fields) : Act Desk Unit :=
  onHost (Act.modify fun h => { h with cloud := h.cloud.record name arguments })

def session : Act Desk Session := fun d =>
  match d.manager.session with
  | some s => (.ok s, d)
  | none =>
    let k := d.manager.keys
    let s := k.open_ d.manager.opened
    (do
      record "session" k.arguments
      Act.modify fun d => { d with manager := { d.manager with
        session := some s, opened := s.number + 1 } }
      note Log.info logger ("Created AWS session - Region: " ++ s.region.getD "None"
        ++ ", Credentials: " ++ k.source)
      return s : Act Desk Session) d

def clientOf (service : String) : Act Desk Client := fun d =>
  match d.manager.clients.lookup service with
  | some c => (.ok c, d)
  | none => (do
      let s ← session
      record "client" [("service", .str service)]
      let n ← Act.get >>= fun d => pure d.manager.made
      Act.modify fun d => { d with manager := { d.manager with
        clients := d.manager.clients ++ [(service, ⟨n, s⟩)], made := n + 1 } }
      note Log.debug logger ("Created " ++ service ++ " client")
      return ⟨n, s⟩ : Act Desk Client) d

def client (service : String) : Act Desk Nat := do return (← clientOf service).number

/-- Calls the service and gives its whole answer. -/
def call (name : String) (arguments : Fields) : Act Desk CloudReply := fun d =>
  let (reply, cloud) := d.host.cloud.call name arguments
  (.ok reply, { d with host := { d.host with cloud } })

def request (name : String) (arguments : Fields) : Act Desk Json := do
  let reply ← call name arguments
  match reply.fault with
  | some f => Act.fail f
  | none => return reply.value

def clear : Act Desk Unit := do
  Act.modify fun d =>
    { d with manager := { d.manager with clients := [], session := none, identity := none } }
  note Log.debug logger "Cleared AWS client cache"

def identityOf (v : Json) (region : Option String) : Except Fault Identity := do
  let account ← v.demand "Account"
  let user ← v.demand "Arn"
  let userId ← v.demand "UserId"
  return { account, user, userId, region }

def askIdentity : Act Desk Identity := do
  let _ ← client "sts"
  let v ← request "sts.get_caller_identity" []
  let s ← session
  let identity ← Act.ofExcept (identityOf v s.region)
  Act.modify fun d => { d with manager := { d.manager with identity := some identity } }
  note Log.info logger ("AWS credentials validated - Account: " ++ identity.account.display
    ++ ", User: " ++ identity.user.display ++ ", Region: " ++ identity.region.getD "None")
  return identity

/-- What the log says about credentials that could not be verified. -/
def refusal : Fault → Option String
  | .noCredentials => some ("AWS credentials missing or incomplete: " ++ Fault.noCredentials.text)
  | .partialCredentials provider missing =>
    some ("AWS credentials missing or incomplete: "
      ++ (Fault.partialCredentials provider missing).text)
  | .service f =>
    if f.code = some "InvalidClientTokenId" then some "AWS credentials are invalid or expired"
    else if f.code = some "SignatureDoesNotMatch" then some "AWS credential signature is invalid"
    else some ("Failed to validate AWS credentials: " ++ f.text)
  | _ => none

/-- The identity behind the credentials, asked for once. -/
def verify : Act Desk Identity := fun d =>
  match d.manager.identity with
  | some identity => (.ok identity, d)
  | none => (do
      match ← Act.attempt askIdentity with
      | .ok identity => return identity
      | .error f =>
        match refusal f with
        | some message => note Log.error logger message
        | none => pure ()
        Act.fail f : Act Desk Identity) d

end Desk
end Dismantle.Aws
