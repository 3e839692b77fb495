import Dismantle.Proofs.Teardown.History
import Dismantle.Teardown.Steps
/-! What a call that has ended means for the record, and what a record gives reason to call. -/
namespace Dismantle.Teardown

/-- What a call that has ended says about the record; the part on the stack is for its name and for
its load balancer's type. -/
structure Finding where
  director : Option Director := none
  stack : Option String := none
  certificate : Option String := none
  keyPair : Option KeyPair := none
  tfState : Option String := none

def Call.saving : Call → Option Environment
  | .save e => some e
  | _ => none

namespace Exchange

def finding : Exchange → Finding
  | ⟨.deleteDirector _, .ok _⟩ => { director := some {} }
  | ⟨.deleteDirector _, .error (.directorLeft left _)⟩ => { director := some left.director }
  | ⟨.deleteStack _, .ok _⟩ => { stack := some "" }
  | ⟨.deleteCertificate _, .ok _⟩ => { certificate := some "" }
  | ⟨.deleteAwsKeyPair _, .ok _⟩ => { keyPair := some {} }
  | ⟨.deleteGcpKeyPair _, .ok _⟩ => { keyPair := some {}, tfState := some "" }
  | ⟨.terraformDestroy _, .error (.infrastructureLeft tfState _)⟩ => { tfState := some tfState }
  | _ => {}

def Tells (x : Exchange) : Prop := x.finding ≠ {}

/-- The record once it says what an exchange has found. -/
def applied (x : Exchange) (e : Environment) : Environment :=
  { e with
    director := x.finding.director.getD e.director
    stack :=
      { name := x.finding.stack.getD e.stack.name
        lbType := x.finding.stack.getD e.stack.lbType
        certificateName := x.finding.certificate.getD e.stack.certificateName }
    keyPair := x.finding.keyPair.getD e.keyPair
    tfState := x.finding.tfState.getD e.tfState }

def saved : Exchange → Option Environment
  | ⟨.save e, .ok _⟩ => some e
  | _ => none

/-- The state that destroying the infrastructure gave back. -/
def destroyed : Exchange → Option String
  | ⟨.terraformDestroy _, .ok tfState⟩ => some tfState
  | _ => none

/-- An exchange that has no bearing on the record. -/
structure Idle (x : Exchange) : Prop where
  finding : x.finding = {}
  destroyed : x.destroyed = none
  saving : x.call.saving = none

/-- A confirmed deletion after which the run goes on. -/
inductive Removal : Exchange → Prop where
  | director (e : Environment) : Removal ⟨.deleteDirector e, .ok ()⟩
  | stack (name : String) : Removal ⟨.deleteStack name, .ok ()⟩
  | certificate (name : String) : Removal ⟨.deleteCertificate name, .ok ()⟩
  | keyPair (name : String) : Removal ⟨.deleteAwsKeyPair name, .ok ()⟩

/-- A deletion that failed and told what it left. -/
inductive Remnant : Exchange → Prop where
  | director (e left : Environment) (cause : Fault) :
      Remnant ⟨.deleteDirector e, .error (.directorLeft left cause)⟩
  | infrastructure (d : Destruction) (tfState : String) (cause : Fault) :
      Remnant ⟨.terraformDestroy d, .error (.infrastructureLeft tfState cause)⟩

end Exchange

/-- The record that is in the store after a history, where `e` was there before. -/
def kept (e : Environment) (es : List Exchange) : Environment :=
  es.foldl (fun e x => x.saved.getD e) e

/-- What a record gives reason to call, and with what. -/
def Call.Due (e : Environment) : Call → Prop
  | .deleteDirector d => d = e ∧ e.director.isEmpty = false
  | .describeStack name | .deleteStack name =>
    e.provider ≠ .gcp ∧ name = e.stack.name ∧ e.stack.name ≠ ""
  | .deleteCertificate name =>
    e.provider ≠ .gcp ∧ name = e.stack.certificateName ∧ e.stack.certificateName ≠ ""
  | .deleteAwsKeyPair name => e.provider = .aws ∧ name = e.keyPair.name
  | .terraformDestroy d => e.provider = .gcp ∧ d = destruction e
  | .deleteGcpKeyPair key => e.provider = .gcp ∧ key = e.keyPair.publicKey
  | .save s => s = e
  | _ => True

/-- A stack, a certificate and a key pair are only ever told to be gone. -/
structure Finding.Erases (f : Finding) : Prop where
  stack : ∀ name, f.stack = some name → name = ""
  certificate : ∀ name, f.certificate = some name → name = ""
  keyPair : ∀ k, f.keyPair = some k → k = {}

/-- What a finding can be where its call was due. -/
structure Finding.Fits (f : Finding) (e : Environment) : Prop where
  director : ∀ d, f.director = some d → e.director.isEmpty = false
  stack : ∀ name, f.stack = some name → e.stack.name ≠ ""
  stackOwned : e.provider = .gcp → f.stack = none ∧ f.certificate = none
  keyPairOwned : e.provider = .unset → f.keyPair = none
  tfStateOwned : e.provider ≠ .gcp → f.tfState = none

namespace Exchange
variable {x : Exchange} {e : Environment}

theorem Idle.applied (h : x.Idle) (e : Environment) : x.applied e = e := by
  simp only [Exchange.applied, h.finding, Option.getD_none]

theorem Idle.saved (h : x.Idle) : x.saved = none := by
  unfold Exchange.saved
  split
  · exact nomatch h.saving
  · rfl

theorem Removal.saved (h : x.Removal) : x.saved = none := by
  cases h <;> rfl

theorem Remnant.saved (h : x.Remnant) : x.saved = none := by
  cases h <;> rfl

theorem Removal.tells (h : x.Removal) : x.Tells := by
  cases h <;> exact nofun

theorem Remnant.tells (h : x.Remnant) : x.Tells := by
  cases h <;> exact nofun

theorem telling (x : Exchange) : x.finding = {} ∨ x.Removal ∨ x.Remnant ∨
    ∃ key, x = ⟨.deleteGcpKeyPair key, .ok ()⟩ := by
  unfold finding
  split
  · exact .inr (.inl (.director _))
  · exact .inr (.inr (.inl (.director _ _ _)))
  · exact .inr (.inl (.stack _))
  · exact .inr (.inl (.certificate _))
  · exact .inr (.inl (.keyPair _))
  · exact .inr (.inr (.inr ⟨_, rfl⟩))
  · exact .inr (.inr (.inl (.infrastructure _ _ _)))
  · exact .inl rfl

theorem finding_erases (x : Exchange) : x.finding.Erases := by
  rcases x.telling with none | removal | remnant | ⟨key, rfl⟩
  · rw [none]
    exact ⟨nofun, nofun, nofun⟩
  · cases removal with
    | director => exact ⟨nofun, nofun, nofun⟩
    | stack => exact ⟨fun _ told => (Option.some.inj told).symm, nofun, nofun⟩
    | certificate => exact ⟨nofun, fun _ told => (Option.some.inj told).symm, nofun⟩
    | keyPair => exact ⟨nofun, nofun, fun _ told => (Option.some.inj told).symm⟩
  · cases remnant <;> exact ⟨nofun, nofun, nofun⟩
  · exact ⟨nofun, nofun, fun _ told => (Option.some.inj told).symm⟩

theorem finding_fits (due : x.call.Due e) : x.finding.Fits e := by
  rcases x.telling with none | removal | remnant | ⟨key, rfl⟩
  · rw [none]
    exact ⟨nofun, nofun, fun _ => ⟨rfl, rfl⟩, fun _ => rfl, fun _ => rfl⟩
  · cases removal with
    | director =>
        exact ⟨fun _ _ => due.2, nofun, fun _ => ⟨rfl, rfl⟩, fun _ => rfl, fun _ => rfl⟩
    | stack =>
        exact ⟨nofun, fun _ _ => due.2.2, (absurd · due.1), fun _ => rfl, fun _ => rfl⟩
    | certificate => exact ⟨nofun, nofun, (absurd · due.1), fun _ => rfl, fun _ => rfl⟩
    | keyPair =>
        have owned : e.provider ≠ .unset := by rw [due.1]; decide
        exact ⟨nofun, nofun, fun _ => ⟨rfl, rfl⟩, (absurd · owned), fun _ => rfl⟩
  · cases remnant with
    | director =>
        exact ⟨fun _ _ => due.2, nofun, fun _ => ⟨rfl, rfl⟩, fun _ => rfl, fun _ => rfl⟩
    | infrastructure =>
        exact ⟨nofun, nofun, fun _ => ⟨rfl, rfl⟩, fun _ => rfl, (absurd due.1 ·)⟩
  · have owned : e.provider ≠ .unset := by rw [due.1]; decide
    exact ⟨nofun, nofun, fun _ => ⟨rfl, rfl⟩, (absurd · owned), (absurd due.1 ·)⟩

end Exchange
end Dismantle.Teardown
