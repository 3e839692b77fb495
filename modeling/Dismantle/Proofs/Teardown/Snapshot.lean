import Dismantle.Proofs.Teardown.Orderly
import Dismantle.Proofs.Teardown.Rehearsal
/-! What a run hands over to be saved: the record that it started with, changed by what the calls
before have confirmed and by nothing else. -/
namespace Dismantle.Teardown

/-- A part of the record is `now` what some call has told, and what it was at the start if no call
has told anything. -/
structure Settles {β : Type} (told : Exchange → Option β) (before : List Exchange)
    (start now : β) : Prop where
  confirmed : ∀ x ∈ before, ∀ b, told x = some b → now = b
  unchanged : (∀ x ∈ before, told x = none) → now = start

/-- What a teardown never touches, and what the provider at the start does not own. -/
structure Spares (start now : Environment) : Prop where
  version : now.version = start.version
  provider : now.provider = start.provider
  envId : now.envId = start.envId
  aws : now.aws = start.aws
  gcp : now.gcp = start.gcp
  stack : start.provider = .gcp → now.stack = start.stack
  keyPair : start.provider = .unset → now.keyPair = start.keyPair
  tfState : start.provider ≠ .gcp → now.tfState = start.tfState

/-- A record that says exactly what the calls so far have confirmed. -/
structure Reflects (start : Environment) (before : List Exchange) (now : Environment) : Prop where
  director : Settles (·.finding.director) before start.director now.director
  stackName : Settles (·.finding.stack) before start.stack.name now.stack.name
  lbType : Settles (·.finding.stack) before start.stack.lbType now.stack.lbType
  certificate :
    Settles (·.finding.certificate) before start.stack.certificateName now.stack.certificateName
  keyPair : Settles (·.finding.keyPair) before start.keyPair now.keyPair
  tfState : Settles (·.finding.tfState) before start.tfState now.tfState
  spares : Spares start now

/-- What a finding is like after which a run goes on: only deletions are told, none of which left
anything. -/
structure Finding.Final (f : Finding) : Prop where
  director : ∀ d, f.director = some d → d = {}
  tfState : f.tfState = none

/-- Whether a run may still delete something. -/
def Standing.Goes : Standing → Prop
  | .level _ | .changed _ _ false | .bare _ _ => True
  | .changed _ _ true | .closed _ _ => False

namespace Settles
variable {β : Type} {told : Exchange → Option β} {before : List Exchange} {start now : β}
  {x : Exchange}

theorem nil (told : Exchange → Option β) (start : β) : Settles told [] start start :=
  ⟨List.forall_mem_nil _, fun _ => rfl⟩

/-- One more exchange settles what it tells, if nothing else was told before. -/
theorem snoc (h : Settles told before start now)
    (agree : ∀ y ∈ before, ∀ c, told y = some c → ∀ b, told x = some b → c = b) :
    Settles told (before ++ [x]) start ((told x).getD now) := by
  cases hx : told x with
  | none =>
      refine ⟨?_, fun untold => ?_⟩
      · intro y member b hy
        rcases List.mem_append.mp member with earlier | new
        · exact h.confirmed y earlier b hy
        · rw [List.mem_singleton.mp new, hx] at hy
          cases hy
      · exact h.unchanged fun y member => untold y (List.mem_append_left _ member)
  | some b =>
      refine ⟨?_, fun untold => ?_⟩
      · intro y member c hy
        rcases List.mem_append.mp member with earlier | new
        · exact (agree y earlier c hy b hx).symm
        · rw [List.mem_singleton.mp new, hx] at hy
          exact Option.some.inj hy
      · have none := untold x (List.mem_append_right _ List.mem_cons_self)
        rw [hx] at none
        cases none

end Settles

theorem Exchange.Removal.final {x : Exchange} (h : x.Removal) : x.finding.Final := by
  cases h with
  | director e => exact ⟨fun d told => (Option.some.inj told).symm, rfl⟩
  | _ => exact ⟨nofun, rfl⟩

theorem Spares.applied {start now : Environment} {x : Exchange} (h : Spares start now)
    (due : x.call.Due now) : Spares start (x.applied now) := by
  have fits := x.finding_fits due
  refine ⟨h.version, h.provider, h.envId, h.aws, h.gcp, fun gcp => ?_, fun unset => ?_,
    fun other => ?_⟩
  · rw [← h.stack gcp]
    obtain ⟨name, certificate⟩ := fits.stackOwned (h.provider.trans gcp)
    simp only [Exchange.applied, name, certificate, Option.getD_none]
  · rw [← h.keyPair unset]
    have untold := fits.keyPairOwned (h.provider.trans unset)
    simp only [Exchange.applied, untold, Option.getD_none]
  · rw [← h.tfState other]
    have untold := fits.tfStateOwned (h.provider ▸ other)
    simp only [Exchange.applied, untold, Option.getD_none]

namespace Reflects
variable {start now : Environment} {before : List Exchange} {x : Exchange}

theorem nil (start : Environment) : Reflects start [] start :=
  ⟨.nil _ _, .nil _ _, .nil _ _, .nil _ _, .nil _ _, .nil _ _,
    ⟨rfl, rfl, rfl, rfl, rfl, fun _ => rfl, fun _ => rfl, fun _ => rfl⟩⟩

/-- One more exchange, which tells nothing unless the run could still go on. -/
theorem snoc (h : Reflects start before now) (due : x.call.Due now)
    (final : x.Tells → ∀ y ∈ before, y.finding.Final) :
    Reflects start (before ++ [x]) (x.applied now) := by
  have erases := x.finding_erases
  refine ⟨h.director.snoc ?_, h.stackName.snoc ?_, h.lbType.snoc ?_, h.certificate.snoc ?_,
    h.keyPair.snoc ?_, h.tfState.snoc ?_, h.spares.applied due⟩
  · -- Deleting a director takes one on record, so none was told to be gone before.
    intro y member c hy b hx
    have tells : x.Tells := fun none => by rw [none] at hx; cases hx
    have empty := h.director.confirmed y member c hy
    rw [(final tells y member).director c hy] at empty
    have recorded := (x.finding_fits due).director b hx
    rw [empty] at recorded
    cases recorded
  · intro y _ c hy b hx
    rw [y.finding_erases.stack c hy, erases.stack b hx]
  · intro y _ c hy b hx
    rw [y.finding_erases.stack c hy, erases.stack b hx]
  · intro y _ c hy b hx
    rw [y.finding_erases.certificate c hy, erases.certificate b hx]
  · intro y _ c hy b hx
    rw [y.finding_erases.keyPair c hy, erases.keyPair b hx]
  · intro y member c hy b hx
    have tells : x.Tells := fun none => by rw [none] at hx; cases hx
    have none := (final tells y member).tfState
    cases none.symm.trans hy

end Reflects

namespace Move
variable {a b : Standing} {x : Exchange}

theorem goes (h : Move a x b) (tells : x.Tells) : a.Goes := by
  cases h with
  | savedLast => exact absurd rfl tells
  | unsaved => exact absurd rfl tells
  | _ => trivial

theorem final (h : Move a x b) (goes : b.Goes) : a.Goes ∧ x.finding.Final := by
  have silent : ({} : Finding).Final := ⟨nofun, rfl⟩
  cases h with
  | idle idle _ => exact ⟨trivial, idle.finding ▸ silent⟩
  | removal removal _ => exact ⟨trivial, removal.final⟩
  | destroyed => exact ⟨trivial, silent⟩
  | announced => exact ⟨trivial, silent⟩
  | keyPairLeft => exact ⟨trivial, silent⟩
  | saved => exact ⟨trivial, silent⟩
  | remnant => exact goes.elim
  | completion => exact goes.elim
  | savedLast => exact goes.elim
  | unsaved => exact goes.elim

end Move

/-- What holds all along a course: the record reflects the calls so far, and as long as the run may
delete anything more, none of them has told what a failed deletion left. -/
structure Faithful (start : Environment) (before : List Exchange) (a : Standing) : Prop where
  reflects : Reflects start before a.known
  final : a.Goes → ∀ x ∈ before, x.finding.Final

theorem Faithful.snoc {start : Environment} {before : List Exchange} {a b : Standing} {x : Exchange}
    (h : Faithful start before a) (move : Move a x b) : Faithful start (before ++ [x]) b := by
  constructor
  · rw [move.known]
    exact h.reflects.snoc move.due fun tells => h.final (move.goes tells)
  · intro goes
    obtain ⟨earlier, new⟩ := move.final goes
    exact List.forall_mem_append.mpr ⟨h.final earlier, List.forall_mem_singleton.mpr new⟩

theorem Course.reflects {start : Environment} {es : List Exchange} {z : Standing}
    (h : Course (.level start) es z) : Reflects start es z.known := by
  have empty : Faithful start [] (.level start) := ⟨.nil start, fun _ => List.forall_mem_nil _⟩
  exact (h.preserves (I := Faithful start) .snoc empty).reflects

/-- Every record that a run hands over to be saved reflects exactly the calls that have ended
before. -/
theorem run_saves_reflecting {σ : Type} (h : Handler σ) (s : σ) (supported : List Provider)
    (arguments : List String) (p : Progress) {before after : List Exchange} {e : Environment}
    {r : Except Fault Unit}
    (saving : (run supported arguments p).history h s = before ++ ⟨.save e, r⟩ :: after) :
    Reflects p.env before e := by
  obtain ⟨z, course, _⟩ := run_course h s supported arguments p
  rw [saving] at course
  obtain ⟨a, first, rest⟩ := course.cut
  cases rest with
  | cons move _ =>
      have due : e = a.known := move.due
      rw [due]
      exact first.reflects

/-- A stack that was found to be gone stays on record when the certificate is deleted. -/
theorem run_saves_reflecting_missing :
    Reflects { stack := { name := "stack", certificateName := "certificate" } }
      [⟨.validateRecord { stack := { name := "stack", certificateName := "certificate" } }, .ok ()⟩,
        ⟨.terraformVersion, .ok "0.8.7"⟩, ⟨.note "no BOSH director, skipping...", .ok ()⟩,
        ⟨.describeStack "stack", .error (.missingStack "stack")⟩,
        ⟨.note "no AWS stack, skipping...", .ok ()⟩, ⟨.step "deleting certificate", .ok ()⟩,
        ⟨.deleteCertificate "certificate", .ok ()⟩]
      { stack := { name := "stack" } } :=
  @run_saves_reflecting Stage (Stage.handler missing) { kept := {} } Provider.all ["-n"]
    { env := _ } _ [] _ (.ok ()) rfl

end Dismantle.Teardown
