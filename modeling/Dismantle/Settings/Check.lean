import Dismantle.Fault.Basic
import Dismantle.Settings.Basic
/-! Checking what was set. -/
namespace Dismantle.Settings

open Check

def spellingOf : Yaml.Value → Check Spelling
  | .str s => pure s
  | .unpaired points => pure (.broken points)
  | .bytes bs => match Text.Utf8.decode bs with
    | .ok cs => pure (String.ofList cs)
    | .error _ => fail "" .brokenText
  | _ => fail "" .notText

/-- Text that something is asked of has to be text that bytes can spell. -/
def textOf (v : Yaml.Value) : Check String := do
  match ← spellingOf v with
  | .plain s => pure s
  | .broken _ => fail "" .brokenText

/-- A fault with a value that was found good so far. -/
def require (holds : Bool) (p : Problem) (c : Check String) : Check String :=
  ⟨c.value, if c.issues.isEmpty && !holds then [⟨[], p⟩] else c.issues⟩

def nonempty (v : Yaml.Value) : Check String :=
  let c := textOf v
  require (c.value ≠ "") .emptyText c

def levelPattern : String := "^(debug|info|warning|error)$"

def level (v : Yaml.Value) : Check String :=
  let c := textOf v
  require (logLevels.contains c.value) (.unmatched levelPattern) c

def optionalText : Yaml.Value → Check (Option Spelling)
  | .null => pure none
  | v => some <$> spellingOf v

def isBlank : Spelling → Bool
  | .plain s => Text.strip s == ""
  | .broken _ => false

def directory (v : Yaml.Value) : Check (Option Spelling) := do
  return (← optionalText v).filter (!isBlank ·)

def setting {α : Type} (g : Given) (name : String) (default : α) (check : Yaml.Value → Check α) :
    Check α :=
  match g.lookup (.plain name) with
  | some v => (check v).under name
  | none => pure default

def checkFields (g : Given) : Check Settings := do
  let d : Settings := {}
  let stateDir ← setting g "state_dir" d.stateDir nonempty
  let logLevel ← setting g "log_level" d.logLevel level
  let logDir ← setting g "log_dir" d.logDir directory
  let terraformBinary ← setting g "terraform_binary" d.terraformBinary nonempty
  let boshBinary ← setting g "bosh_binary" d.boshBinary nonempty
  let gcloudBinary ← setting g "gcloud_binary" d.gcloudBinary nonempty
  let awsProfile ← setting g "aws_profile" d.awsProfile optionalText
  return { stateDir, logLevel, logDir, terraformBinary, boshBinary, gcloudBinary, awsProfile }

/-- Names are text that bytes can spell; one that is not is all that is said of the settings. -/
def check (g : Given) : Check Settings :=
  match (g.map (·.1)).mapM Spelling.text? with
  | some names => do
    let s ← checkFields g
    unknownKeys keys names
    return s
  | none => fail {} .brokenText

def of (g : Given) : Except Fault Settings :=
  match (check g).issues with
  | [] => .ok (check g).value
  | issues => .error (.badSettings ("Configuration validation failed with "
      ++ toString issues.length ++ " error(s)") issues)

end Dismantle.Settings
