import Dismantle.Fault.Basic
import Dismantle.Json.Display
/-! What a fault says. -/
namespace Dismantle

def Category.text : Category → String
  | .configuration => "configuration"
  | .aws => "aws"
  | .gcp => "gcp"
  | .network => "network"
  | .state => "state"
  | .flag => "flag"
  | .safety => "safety"
  | .provisioning => "provisioning"
  | .command => "command"
  | .credential => "credential"
  | .permission => "permission"
  | .validation => "validation"
  | .unknown => "unknown"

def Category.all : List Category :=
  [.configuration, .aws, .gcp, .network, .state, .flag, .safety, .provisioning, .command,
   .credential, .permission, .validation, .unknown]

def Severity.text : Severity → String
  | .critical => "critical"
  | .error => "error"
  | .warning => "warning"
  | .info => "info"

def Severity.all : List Severity := [.critical, .error, .warning, .info]

/-- The severity in capitals, as it opens a message to the user. -/
def Severity.heading : Severity → String
  | .critical => "CRITICAL"
  | .error => "ERROR"
  | .warning => "WARNING"
  | .info => "INFO"

def ServiceFault.text (f : ServiceFault) : String :=
  let retries := match f.retries with
    | some n => " (reached max retries: " ++ toString n ++ ")"
    | none => ""
  "An error occurred (" ++ f.code.getD "Unknown" ++ ") when calling the " ++ f.operation
    ++ " operation" ++ retries ++ ": " ++ f.message.getD "Unknown"

def Text.Utf8.Reason.text : Text.Utf8.Reason → String
  | .badStart => "invalid start byte"
  | .badContinuation => "invalid continuation byte"
  | .truncated => "unexpected end of data"

/-- One byte is shown, of several only the places. -/
def Text.Utf8.Fault.text (f : Text.Utf8.Fault) : String :=
  let where_ :=
    if f.first = f.last then
      "byte 0x" ++ .ofList (Text.hexDigits 2 f.byte.toNat) ++ " in position " ++ toString f.first
    else "bytes in position " ++ toString f.first ++ "-" ++ toString f.last
  "'utf-8' codec can't decode " ++ where_ ++ ": " ++ f.reason.text

/-- One code point is shown, of several only the places. -/
def Text.Unencodable.text (f : Text.Unencodable) : String :=
  let where_ :=
    if f.first = f.last then
      "character '" ++ .ofList (Text.escapePoint f.point) ++ "' in position " ++ toString f.first
    else "characters in position " ++ toString f.first ++ "-" ++ toString f.last
  "'utf-8' codec can't encode " ++ where_ ++ ": surrogates not allowed"

def leftoverText (arguments : List String) : String :=
  (if arguments.length = 1 then "Got unexpected extra argument ("
    else "Got unexpected extra arguments (") ++ " ".intercalate arguments ++ ")"

def Issue.text (i : Issue) : String := "  - " ++ " -> ".intercalate (i.keys.map Key.text) ++ ": " ++ i.problem.text

mutual
def Fault.text : Fault → String
  | .plain .key message => Text.quoted message
  | .plain _ message => message
  | .system f => f.text
  | .unreadable f => f.text
  | .undecodable f => f.text
  | .unencodable f => f.text
  | .invalid i => i.headline
  | .service f => f.text
  | .waiter name reason => "Waiter " ++ name ++ " failed: " ++ reason
  | .noCredentials => "Unable to locate credentials"
  | .partialCredentials provider missing =>
    "Partial credentials found in " ++ provider ++ ", missing: " ++ missing
  | .leftoverArguments arguments => leftoverText arguments
  | .noAttribute owner name => "'" ++ owner ++ "' object has no attribute '" ++ name ++ "'"
  | .wrongType text => text
  | .endOfInput => "EOF when reading a line"
  | .exhausted => "maximum recursion depth exceeded while calling a Python object"
  | .badSettings message issues =>
    if issues.isEmpty then message
    else "\n".intercalate (message :: "" :: issues.map Issue.text)
  | .reported _ message _ _ _ => message
  | .several parts => "the following errors occurred:\n" ++ ",\n".intercalate (Fault.texts parts)
  | .directorLeft _ cause => cause.text
  | .infrastructureLeft _ cause => cause.text
  | .outdatedTerraform minimum _ => "Terraform version must be at least v" ++ minimum
  | .missingStack name => if name = "" then "stack not found" else "stack not found: " ++ name
def Fault.texts : List Fault → List String
  | [] => []
  | f :: fs => f.text :: Fault.texts fs
end

end Dismantle
