import Dismantle.Proofs.Environment.Assign
import Dismantle.Main
import Dismantle.Proofs.Log.Fill
import Dismantle.Proofs.Teardown.Snapshot
import Dismantle.Proofs.Teardown.Memory
import Dismantle.Proofs.Teardown.Resumption
import Dismantle.Proofs.Teardown.Convergence
import Dismantle.Proofs.Teardown.FailStop
import Dismantle.Proofs.Teardown.Preflight
import Dismantle.Proofs.Host.Ending
import Dismantle.Proofs.Host.Engagement
import Dismantle.Proofs.Files.Reading
import Dismantle.Proofs.Json.Access
import Dismantle.Proofs.Aws.Answer
import Dismantle.Proofs.Aws.Desk
import Dismantle.Proofs.Terraform.Tool
import Dismantle.Proofs.Gcloud.Network
import Dismantle.Proofs.Teardown.Sequence
import Dismantle.Proofs.Bosh.Tool
import Dismantle.Proofs.Teardown.Episode
import Dismantle.Proofs.Teardown.StackSafety
import Dismantle.Proofs.Teardown.NetworkSafety
import Dismantle.Proofs.Teardown.LostDeletion
import Dismantle.Proofs.Teardown.Refinement
import Dismantle.Proofs.Environment.Reporting
import Dismantle.Proofs.Teardown.Leftover
import Dismantle.Proofs.Teardown.Alike
import Dismantle.Proofs.Teardown.Discretion
import Dismantle.Proofs.Terraform.Destruction
import Dismantle.Proofs.Aws.Foreign
import Dismantle.Proofs.Yaml.Document
import Dismantle.Proofs.Bosh.Recovery
import Dismantle.Proofs.Bosh.Remainder
import Dismantle.Proofs.Gcloud.Occupancy
import Dismantle.Proofs.Gcloud.Metadata
import Dismantle.Proofs.Gcloud.Keys
import Dismantle.Proofs.Gcloud.Entry
import Dismantle.Proofs.Teardown.Flags
import Dismantle.Proofs.Terraform.Version
import Dismantle.Proofs.Teardown.Stopping
import Dismantle.Proofs.Teardown.VersionGate
import Dismantle.Proofs.Fault.Classify
import Dismantle.Proofs.Aws.Errand
import Dismantle.Proofs.Aws.Refusal
import Dismantle.Proofs.Aws.MissingCredentials
import Dismantle.Proofs.Aws.Deed
import Dismantle.Proofs.Aws.Caches
import Dismantle.Proofs.Aws.Turns
import Dismantle.Proofs.Settings.History
import Dismantle.Proofs.Settings.Surfacing
import Dismantle.Proofs.Teardown.Sessions
import Dismantle.Proofs.Log.Line
import Dismantle.Proofs.Teardown.Consent
