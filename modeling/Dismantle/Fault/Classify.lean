import Dismantle.Fault.Report
/-! Turning faults of the surroundings into reports. A fault of a service is told by its code;
the report keeps the fault as its cause and says under which circumstances it arose. -/
namespace Dismantle

/-- What a known service code means. -/
structure CodeMeaning where
  code : String
  category : Category
  message : String
  suggestions : List String

def knownCodes : List CodeMeaning := [
  ⟨"InvalidClientTokenId", .credential, "AWS credentials are invalid or expired",
    ["Check the access key ID recorded in the state file",
     "Verify credentials using: aws sts get-caller-identity"]⟩,
  ⟨"SignatureDoesNotMatch", .credential, "AWS credential signature is invalid",
    ["Verify the secret access key recorded in the state file",
     "Regenerate AWS credentials if necessary"]⟩,
  ⟨"ExpiredToken", .credential, "AWS session token has expired",
    ["Refresh your AWS session credentials"]⟩,
  ⟨"AccessDenied", .permission, "Access denied - insufficient permissions",
    ["Check IAM policies attached to your user/role",
     "Verify you have the required permissions for this operation"]⟩,
  ⟨"UnauthorizedOperation", .permission, "Operation not authorized",
    ["Add the required IAM permission for this operation",
     "Verify you are operating in the correct AWS region"]⟩,
  ⟨"DeleteConflict", .provisioning, "Resource is still in use",
    ["Detach the certificate from any load balancer still using it",
     "Re-run destroy once the dependent resources are gone"]⟩,
  ⟨"ValidationError", .validation, "Invalid parameter or configuration",
    ["Review the error message for specific validation failures"]⟩,
  ⟨"RequestTimeout", .network, "Request timed out",
    ["Check your network connectivity", "Re-run destroy; completed steps are not repeated"]⟩,
  ⟨"ServiceUnavailable", .network, "AWS service temporarily unavailable",
    ["Check AWS Service Health Dashboard", "Re-run destroy; completed steps are not repeated"]⟩]

/-- The kind of report made for a category; refused credentials have a kind of their own. -/
def reportKindFor (category : Category) : ReportKind :=
  if category = .credential then .credential else .general category .error

/-- The report on a refused request; `c` already holds the request's number. -/
def ServiceFault.report (f : ServiceFault) (c : Circumstances) : Fault :=
  let message := f.message.getD f.text
  let code := f.code.getD "Unknown"
  match knownCodes.find? fun m => m.code = code with
  | some m =>
    .reported (reportKindFor m.category) (m.message ++ ": " ++ message) c (some (.service f))
      m.suggestions
  | none =>
    .reported (.general .aws .error) ("AWS Error (" ++ code ++ "): " ++ message) c
      (some (.service f))
      ["AWS Request ID: " ++ f.requestId.getD "None", "Review CloudTrail logs for more details"]

/-- Faults of a connection: broken pipes, refused, aborted or reset connections, and timeouts. -/
def SystemFault.isConnection (f : SystemFault) : Bool := f.number ∈ [32, 103, 104, 108, 110, 111]

namespace Fault

/-- Whether a fault speaks of the network. -/
def isConnection : Fault → Bool
  | .plain .connection _ | .plain .connectionReset _ | .plain .timeout _ => true
  | .system f => f.isConnection
  | _ => false

/-- The circumstances once a fault is known: a service tells the number of the request. -/
def settle (f : Fault) (c : Circumstances) : Circumstances :=
  match f with
  | .service s => { c with requestId := s.requestId }
  | _ => c

/-- The report on a fault; a report is left as it is. -/
def classify (f : Fault) (c : Circumstances) : Fault :=
  match f with
  | .service s => s.report (f.settle c)
  | .noCredentials =>
    .reported .credential "No AWS credentials found" c (some f)
      ["Make sure the state file records an access key ID and secret",
       "Or set AWS_ACCESS_KEY_ID and AWS_SECRET_ACCESS_KEY environment variables"]
  | .partialCredentials .. =>
    .reported .credential "Incomplete AWS credentials" c (some f)
      ["Ensure both access key ID and secret access key are provided"]
  | _ =>
    if f.isConnection then
      .reported (.general .network .error) ("Network error: " ++ f.text) c (some f)
        ["Check your internet connection", "Re-run destroy"]
    else if f.isReport then f
    else
      .reported (.general .unknown .error) f.text c (some f) ["Check logs for more details"]

end Fault
end Dismantle
