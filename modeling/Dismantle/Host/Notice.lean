import Dismantle.Fault.Report
import Dismantle.Host.Basic
/-! Putting a report into the log: what the user is shown, then all its parts. -/
namespace Dismantle

def Severity.level : Severity → Log.Level
  | .critical | .error => Log.error
  | .warning => Log.warning
  | .info => Log.info

namespace Host

def faultLogger : String := "envteardown.utils.errors"

/-- What precedes the parts of a report in the log. -/
def detailsMark : String := "Error details: "

def noteFault (f : Fault) : Act Host Unit := do
  note f.severity.level faultLogger f.userMessage
  note Log.debug faultLogger (detailsMark ++ f.details.display)

end Host
end Dismantle
