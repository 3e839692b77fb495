/-! How faults are told apart: by what they are about, by how bad they are, or by little more than
a name. -/
namespace Dismantle

inductive Category where
  | configuration | aws | gcp | network | state | flag | safety | provisioning | command
  | credential | permission | validation | unknown
  deriving DecidableEq, Repr

inductive Severity where
  | critical | error | warning | info
  deriving DecidableEq, Repr

/-- The kinds of reports; each but the first has a category and a severity of its own. -/
inductive ReportKind where
  | general (category : Category) (severity : Severity)
  | configuration | flag | credential | state | unsafeDeletion | provisioning | command | validation
  deriving DecidableEq, Repr

/-- Faults of which only a message is known. -/
inductive PlainKind where
  | runtime | value | key | index | overflow | system | connection | connectionReset | timeout
  deriving DecidableEq, Repr

end Dismantle
