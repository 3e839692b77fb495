import Dismantle.Fault.Classify
import Mathlib.Data.List.Infix
/-! The reports that faults are turned into, and what they keep of a request that was refused. -/
namespace Dismantle

namespace Fault

theorem classify_of_isReport {f : Fault} (report : f.isReport = true) (c : Circumstances) :
    f.classify c = f := by
  cases f with
  | reported | several | directorLeft | infrastructureLeft | outdatedTerraform | missingStack => rfl
  | _ => cases report

theorem isReport_classify (f : Fault) (c : Circumstances) : (f.classify c).isReport = true := by
  unfold classify
  split
  case h_1 =>
      simp only [ServiceFault.report]
      split <;> rfl
  case h_2 | h_3 => rfl
  case h_4 =>
      split
      case isTrue => rfl
      case isFalse =>
          split
          case isTrue report => exact report
          case isFalse => rfl

/-- Once a fault is a report, no other circumstances change it. -/
theorem classify_classify (f : Fault) (c c' : Circumstances) :
    (f.classify c).classify c' = f.classify c :=
  classify_of_isReport (f.isReport_classify c) c'

def IsCredential : Fault → Prop
  | .reported .credential .. => True
  | _ => False

theorem isCredential_reported {kind : ReportKind} {message : String} {c : Circumstances}
    {cause : Option Fault} {suggestions : List String} :
    (reported kind message c cause suggestions).IsCredential ↔ kind = .credential := by
  cases kind <;> simp [IsCredential]

end Fault

namespace ServiceFault

/-- What a refusal is about. A code that is not known says no more than which service it is from. -/
def category (f : ServiceFault) : Category :=
  match f.code with
  | some "InvalidClientTokenId" | some "SignatureDoesNotMatch" | some "ExpiredToken" => .credential
  | some "AccessDenied" | some "UnauthorizedOperation" => .permission
  | some "DeleteConflict" => .provisioning
  | some "ValidationError" => .validation
  | some "RequestTimeout" | some "ServiceUnavailable" => .network
  | _ => .aws

variable {f : ServiceFault}

def meaning? (f : ServiceFault) : Option CodeMeaning :=
  knownCodes.find? fun m => m.code = f.code.getD "Unknown"

theorem meaning?_eq_some {m : CodeMeaning} (h : f.meaning? = some m) : f.category = m.category := by
  have known := List.mem_of_find?_eq_some h
  have same : m.code = f.code.getD "Unknown" := by simpa using List.find?_some h
  have named : ∀ m ∈ knownCodes, m.code ≠ "Unknown" := by decide
  have coded : f.code = some m.code := by
    cases code : f.code with
    | none =>
        rw [code] at same
        exact absurd same (named m known)
    | some told =>
        rw [code] at same
        exact congrArg some same.symm
  simp only [knownCodes, List.mem_cons, List.not_mem_nil, or_false] at known
  rcases known with rfl | rfl | rfl | rfl | rfl | rfl | rfl | rfl | rfl <;>
    simp only [category, coded]

theorem meaning?_eq_none (h : f.meaning? = none) : f.category = .aws := by
  unfold category
  split
  case h_10 => rfl
  all_goals
    rename_i code
    simp [meaning?, knownCodes, code] at h

/-- A report says all that is known of a refused request, and which resource was asked for. -/
structure Told (f : ServiceFault) (resource : String) (report : Fault) : Prop where
  isReport : report.isReport = true
  cause : report.cause = some (.service f)
  resource : report.circumstances.resourceId = some resource
  requestId : report.circumstances.requestId = f.requestId
  category : report.category = f.category
  credential : report.IsCredential ↔ f.category = .credential
  text : (f.message.getD f.text).toList <:+ report.text.toList

theorem reportKindFor_credential {category : Category} :
    reportKindFor category = .credential ↔ category = .credential := by
  unfold reportKindFor
  split
  case isTrue same => exact iff_of_true rfl same
  case isFalse other => exact iff_of_false nofun other

theorem category_reportKindFor (category : Category) :
    (reportKindFor category).category = category := by
  unfold reportKindFor
  split
  case isTrue same => exact same.symm
  case isFalse => rfl

theorem told (f : ServiceFault) {c : Circumstances} {resource : String}
    (about : c.resourceId = some resource) : f.Told resource ((Fault.service f).classify c) := by
  have ends (front message : String) : message.toList <:+ (front ++ message).toList := by
    rw [String.toList_append]
    exact List.suffix_append _ _
  simp only [Fault.classify, ServiceFault.report]
  split
  case h_1 m found =>
      have category := meaning?_eq_some found
      have kind := category_reportKindFor m.category
      refine ⟨rfl, rfl, about, rfl, kind.trans category.symm, ?_, ends _ _⟩
      rw [Fault.isCredential_reported, reportKindFor_credential, category]
  case h_2 none =>
      have category := meaning?_eq_none none
      refine ⟨rfl, rfl, about, rfl, category.symm, ?_, ends _ _⟩
      rw [Fault.isCredential_reported, category]
      exact iff_of_false nofun nofun

end ServiceFault
end Dismantle
