import Dismantle.Fault.Text
/-! The parts of a report: what it is about, how bad it is, where it comes from and what to do. -/
namespace Dismantle

def ReportKind.category : ReportKind → Category
  | .general category _ => category
  | .configuration => .configuration
  | .flag => .flag
  | .credential => .credential
  | .state => .state
  | .unsafeDeletion => .safety
  | .provisioning => .provisioning
  | .command => .command
  | .validation => .validation

def ReportKind.severity : ReportKind → Severity
  | .general _ severity => severity
  | .provisioning | .command => .error
  | _ => .critical

namespace Fault

def isReport : Fault → Bool
  | .reported .. | .several .. | .directorLeft .. | .infrastructureLeft .. | .outdatedTerraform ..
  | .missingStack .. => true
  | _ => false

/-- Whether a fault is the report on a program that failed. -/
def isCommand : Fault → Bool
  | .reported .command .. => true
  | _ => false

def category : Fault → Category
  | .reported kind .. => kind.category
  | .directorLeft .. | .infrastructureLeft .. => .command
  | .outdatedTerraform .. => .validation
  | _ => .unknown

def severity : Fault → Severity
  | .reported kind .. => kind.severity
  | .several .. => .critical
  | _ => .error

def circumstances : Fault → Circumstances
  | .reported _ _ c _ _ => c
  | _ => {}

def cause : Fault → Option Fault
  | .reported _ _ _ cause _ => cause
  | .several parts => parts.head?
  | .directorLeft _ cause | .infrastructureLeft _ cause => some cause
  | _ => none

def suggestions : Fault → List String
  | .reported _ _ _ _ suggestions => suggestions
  | .outdatedTerraform _ found =>
    [if found = "" then "Check \x60terraform version\x60" else "Installed version is " ++ found]
  | _ => []

def labelled (label : String) : Option String → List String
  | some s => if s = "" then [] else ["   " ++ label ++ ": " ++ s]
  | none => []

def numbered : (n : Nat) → List String → List String
  | _, [] => []
  | n, s :: rest => ("   " ++ toString n ++ ". " ++ s) :: numbered (n + 1) rest

def userMessage (f : Fault) : String :=
  let c := f.circumstances
  let cause := match f.cause with
    | some cause => ["   Cause: " ++ cause.text]
    | none => []
  let advice := if f.suggestions.isEmpty then []
    else "\nSuggested fixes:" :: numbered 1 f.suggestions
  "\n".intercalate ((f.severity.heading ++ ": " ++ f.text) :: labelled "Resource" c.resourceId
    ++ labelled "Operation" c.operation ++ cause ++ advice)

def optionalText : Option String → Json
  | some s => .str s
  | none => .null

/-- All parts of a report as structured data. -/
def details (f : Fault) : Json :=
  let c := f.circumstances
  .obj [
    ("message", .str f.text),
    ("category", .str f.category.text),
    ("severity", .str f.severity.text),
    ("context", .obj [
      ("resource_id", optionalText c.resourceId),
      ("resource_type", optionalText c.resourceType),
      ("operation", optionalText c.operation),
      ("aws_service", optionalText c.service),
      ("aws_operation", optionalText c.serviceOperation),
      ("request_id", optionalText c.requestId),
      ("additional_info", c.more)]),
    ("cause", optionalText (f.cause.map text)),
    ("suggestions", .arr (f.suggestions.map .str))]

/-- The report on a network that still holds instances. -/
def occupied (kind id : String) (names : List String) : Fault :=
  .reported .unsafeDeletion
    (kind ++ " " ++ id ++ " is not safe to delete; vms still exist: [" ++ ", ".intercalate names ++ "]")
    {} none ["Delete the remaining deployments with bosh before destroying the environment"]

end Fault
end Dismantle
