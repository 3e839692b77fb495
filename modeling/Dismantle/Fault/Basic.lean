import Dismantle.Check
import Dismantle.Environment.Basic
import Dismantle.Fault.Kind
import Dismantle.Files.SystemFault
import Dismantle.Json.Reader
import Dismantle.Text.Utf8
/-! Everything that can end a teardown. Faults of the surroundings (the system, a service, data
that cannot be read) are told apart from reports, which this library makes of them: a report has
a severity, says what it is about and may propose what to do. -/
namespace Dismantle

/-- What is known about where a fault arose. -/
structure Circumstances where
  resourceId : Option String := none
  resourceType : Option String := none
  operation : Option String := none
  service : Option String := none
  serviceOperation : Option String := none
  requestId : Option String := none
  more : Json := .null
  deriving Repr, Inhabited

/-- A request that a service refused. `retries` is given when no more were allowed. -/
structure ServiceFault where
  operation : String
  code : Option String := none
  message : Option String := none
  requestId : Option String := none
  retries : Option Int := none
  deriving DecidableEq, Repr

inductive Fault where
  | plain (kind : PlainKind) (message : String)
  | system (fault : SystemFault)
  | unreadable (fault : Json.Unreadable)
  | undecodable (fault : Text.Utf8.Fault)
  | unencodable (fault : Text.Unencodable)
  | invalid (fault : Invalid)
  | service (fault : ServiceFault)
  | waiter (name reason : String)
  | noCredentials
  | partialCredentials (provider missing : String)
  | leftoverArguments (arguments : List String)
  | noAttribute (owner name : String)
  | wrongType (text : String)
  | endOfInput
  /-- Data lies too deep inside one another for the interpreter to follow. -/
  | exhausted
  | badSettings (message : String) (issues : List Issue)
  | reported (kind : ReportKind) (message : String) (circumstances : Circumstances)
      (cause : Option Fault) (suggestions : List String)
  /-- The first fault ended a step; the later ones arose while its outcome was being saved. -/
  | several (parts : List Fault)
  /-- Deleting the director failed; `left` records what was left behind. -/
  | directorLeft (left : Environment) (cause : Fault)
  /-- Destroying the infrastructure failed; `tfState` is the state it left behind. -/
  | infrastructureLeft (tfState : String) (cause : Fault)
  | outdatedTerraform (minimum found : String)
  | missingStack (name : String)
  deriving Repr, Inhabited

def Fault.report (kind : ReportKind) (message : String) : Fault := .reported kind message {} none []

def Yaml.Impossible.fault : Yaml.Impossible → Fault
  | .plain kind message => .plain kind message
  | .noAttribute owner name => .noAttribute owner name

def Fault.reportOf (kind : ReportKind) (message : String) (cause : Fault) : Fault :=
  .reported kind message {} (some cause) []

end Dismantle
