import Dismantle.Proofs.Aws.Errand
import Dismantle.Proofs.Fault.Classify
/-! What an errand makes of a request that the service refuses. -/
namespace Dismantle.Aws.Errand

variable {e : Errand} {d : Desk} {f : ServiceFault}

def resource : Errand → String
  | .describeStack name | .deleteStack _ name => name
  | .checkVpc id => id.display
  | .deleteCertificate name | .deleteKeyPair name => name

/-- The service does not know what it should delete. -/
def Gone (e : Errand) (f : ServiceFault) : Prop :=
  (∃ name, e = .deleteCertificate name ∧ f.code = some "NoSuchEntity") ∨
    ∃ name, e = .deleteKeyPair name ∧ f.code = some "InvalidKeyPair.NotFound"

/-- The service does not know the stack that it should describe. -/
def Missing (e : Errand) (f : ServiceFault) (name : String) : Prop :=
  e = .describeStack name ∧ f.code = some "ValidationError" ∧
    "does not exist".toList <:+: (f.message.getD "").toList

/-- What an errand makes of a refusal. It is passed over just when there is nothing left to delete,
it is a missing stack just when the service says so, and anything else is reported with all that is
known of it. Nothing more is made of what comes out. -/
structure Settled (e : Errand) (f : ServiceFault) (r : Except Fault Unit) : Prop where
  passes : r = .ok () ↔ e.Gone f
  misses (name : String) : r = .error (.missingStack name) ↔ e.Missing f name
  tells : ¬e.Gone f → (∀ name, ¬e.Missing f name) →
    ∃ report, r = .error report ∧ f.Told e.resource report
  final (report : Fault) : r = .error report → ∀ c, report.classify c = report

theorem settled_of_gone (gone : e.Gone f) : e.Settled f (.ok ()) where
  passes := iff_of_true rfl gone
  misses name := by
    refine iff_of_false nofun fun missing => ?_
    rcases gone with ⟨_, rfl, -⟩ | ⟨_, rfl, -⟩ <;> cases missing.1
  tells stays := absurd gone stays
  final := nofun

theorem settled_of_missing {name : String} (missing : e.Missing f name) :
    e.Settled f (.error (.missingStack name)) where
  passes := by
    refine iff_of_false nofun fun gone => ?_
    rcases gone with ⟨_, rfl, -⟩ | ⟨_, rfl, -⟩ <;> cases missing.1
  misses other := by
    obtain ⟨rfl, told⟩ := missing
    refine ⟨fun same => ?_, fun other => ?_⟩
    · cases same
      exact ⟨rfl, told⟩
    · cases other.1
      rfl
  tells _ known := absurd missing (known name)
  final := by
    rintro _ ⟨⟩ c
    exact Fault.classify_of_isReport rfl c

theorem settled_of_report (stays : ¬e.Gone f) (known : ∀ name, ¬e.Missing f name) :
    e.Settled f (.error ((Fault.service f).classify e.circumstances)) where
  passes := iff_of_false nofun stays
  misses name := by
    refine iff_of_false (fun same => ?_) (known name)
    exact Desk.classify_ne_missing f _ name (Except.error.inj same)
  tells _ _ := ⟨_, rfl, f.told (by cases e <;> rfl)⟩
  final := by
    rintro _ ⟨⟩ c
    exact Fault.classify_classify _ _ c

theorem known_of_ne (other : ∀ name, e ≠ .describeStack name) (name : String) :
    ¬e.Missing f name := fun missing => other name missing.1

theorem outcome_settled (e : Errand) (f : ServiceFault) : e.Settled f (e.outcome (.service f)) := by
  cases e with
  | describeStack name =>
      have stays : ¬(describeStack name).Gone f := by rintro (⟨_, ⟨⟩, -⟩ | ⟨_, ⟨⟩, -⟩)
      simp only [outcome]
      split
      case isTrue missing => exact settled_of_missing ⟨rfl, saysMissing_iff.mp missing⟩
      case isFalse known =>
          exact settled_of_report stays fun other missing => known (saysMissing_iff.mpr missing.2)
  | deleteStack | checkVpc =>
      refine settled_of_report ?_ (known_of_ne ?_)
      · rintro (⟨_, ⟨⟩, -⟩ | ⟨_, ⟨⟩, -⟩)
      · rintro _ ⟨⟩
  | deleteCertificate name =>
      simp only [outcome]
      split
      case isTrue gone => exact settled_of_gone (.inl ⟨name, rfl, gone⟩)
      case isFalse other =>
          refine settled_of_report ?_ (known_of_ne ?_)
          · rintro (⟨_, ⟨⟩, gone⟩ | ⟨_, ⟨⟩, -⟩)
            exact other gone
          · rintro _ ⟨⟩
  | deleteKeyPair name =>
      simp only [outcome]
      split
      case isTrue gone => exact settled_of_gone (.inr ⟨name, rfl, gone⟩)
      case isFalse other =>
          refine settled_of_report ?_ (known_of_ne ?_)
          · rintro (⟨_, ⟨⟩, -⟩ | ⟨_, ⟨⟩, gone⟩)
            exact other gone
          · rintro _ ⟨⟩

/-- No refusal is lost, and none is taken for another. -/
theorem refusal_settled (fails : e.Fails d (.service f)) : e.Settled f (e.perform d).1 := by
  rw [perform_fails fails]
  exact outcome_settled e f

def unauthorized : ServiceFault where
  operation := "DescribeInstances"
  code := some "UnauthorizedOperation"
  requestId := some "r-1"

def lostKeyPair : ServiceFault where
  operation := "DeleteKeyPair"
  code := some "InvalidKeyPair.NotFound"

/-- A service that ends a listing behind its first page, and does not know a key pair. -/
def refusingDesk : Desk where
  host := { cloud := { replies := [
    ("ec2.paginate.describe_instances",
      [{ pages := [.obj []], fault := some (.service unauthorized) }]),
    ("ec2.delete_key_pair", [{ fault := some (.service lostKeyPair) }])] } }
  manager := { keys := {} }

theorem refusal_settled_unauthorized :
    (∃ report, (perform (.checkVpc (.str "vpc")) refusingDesk).1 = .error report ∧
      unauthorized.Told "vpc" report ∧ unauthorized.category = .permission) ∧
    (perform (.deleteKeyPair "lake") refusingDesk).1 = .ok () := by
  constructor
  · have fails : Fails (.checkVpc (.str "vpc")) refusingDesk (.service unauthorized) :=
      ⟨rfl, rfl, List.forall_mem_singleton.mpr ⟨[], rfl⟩⟩
    have stays : ¬Gone (.checkVpc (.str "vpc")) unauthorized := by
      rintro (⟨_, ⟨⟩, -⟩ | ⟨_, ⟨⟩, -⟩)
    obtain ⟨report, same, told⟩ := (refusal_settled fails).tells stays nofun
    exact ⟨report, same, told, rfl⟩
  · have fails : Fails (.deleteKeyPair "lake") refusingDesk (.service lostKeyPair) :=
      ⟨by simp [Asks], rfl, trivial⟩
    exact (refusal_settled fails).passes.mpr (.inr ⟨"lake", rfl, rfl⟩)

end Dismantle.Aws.Errand
