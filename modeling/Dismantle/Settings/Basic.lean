import Dismantle.Yaml.Plain
/-! What a user may set: where the record lies, what is logged, which tools are run. -/
namespace Dismantle

structure Settings where
  stateDir : String := "."
  logLevel : String := "warning"
  /-- Without a directory nothing is logged to files. -/
  logDir : Option Spelling := some ".envteardown/logs"
  terraformBinary : String := "terraform"
  boshBinary : String := "bosh"
  gcloudBinary : String := "gcloud"
  /-- The profile to use where the record has no keys. -/
  awsProfile : Option Spelling := none
  deriving DecidableEq, Repr, Inhabited

namespace Settings

def keys : List String :=
  ["state_dir", "log_level", "log_dir", "terraform_binary", "bosh_binary", "gcloud_binary",
   "aws_profile"]

def logLevels : List String := ["debug", "info", "warning", "error"]

/-- Values by name, in the order in which the names first appeared. -/
abbrev Given := Yaml.Entries

end Settings
end Dismantle
