import Dismantle.Proofs.Teardown.Preflight
/-! The record is validated once, as it was at the start, before anything is touched, and no
credentials are checked but its own. -/
namespace Dismantle.Teardown

def Call.validating : Call → Option Environment
  | .validateRecord e => some e
  | _ => none

def Unvalidating (es : List Exchange) : Prop := ∀ x ∈ es, x.call.validating = none

def ValidatesFirst (start : Environment) (es : List Exchange) : Prop :=
  ∀ before x after e, es = before ++ x :: after → x.call.validating = some e →
    e = start ∧ Untouching before

variable {start : Environment} {es es' : List Exchange}

theorem Unvalidating.ne {x : Exchange} {e : Environment} (h : Unvalidating es) (member : x ∈ es) :
    x.call.validating ≠ some e := by
  rw [h x member]
  nofun

theorem Unvalidating.validatesFirst (h : Unvalidating es) : ValidatesFirst start es := by
  intro before x after e split validating
  exact absurd validating (h.ne (split ▸ List.mem_append_right _ List.mem_cons_self))

theorem ValidatesFirst.append (h : ValidatesFirst start es) (rest : Unvalidating es') :
    ValidatesFirst start (es ++ es') := by
  intro before x after e split validating
  rcases place_of_append split with ⟨more, inside⟩ | ⟨more, -, rfl⟩
  · exact h before x more e inside validating
  · exact absurd validating (rest.ne (List.mem_append_right _ List.mem_cons_self))

/-- After calls that touch nothing and validate nothing, the first validation may come. -/
theorem ValidatesFirst.behind (quiet : Untouching es) (none : Unvalidating es)
    (h : ValidatesFirst start es') : ValidatesFirst start (es ++ es') := by
  intro before x after e split validating
  rcases place_of_append split with ⟨more, rfl⟩ | ⟨more, rfl, behind⟩
  · exact absurd validating (none.ne (List.mem_append_right _ List.mem_cons_self))
  · obtain ⟨same, untouching⟩ := h more x after e behind validating
    exact ⟨same, quiet.append untouching⟩

namespace Task
variable {α β : Type}

/-- Wherever it starts from, the task makes only calls that are as `C` says. -/
structure Only (C : Call → Prop) (t : Task α) : Prop where
  ensures : ∀ p, t.Ensures p fun es _ _ => ∀ x ∈ es, C x.call

namespace Only
variable {C D : Call → Prop}

theorem mono {t : Task α} (h : t.Only C) (imp : ∀ c, C c → D c) : t.Only D :=
  ⟨fun p => (h.ensures p).mono fun _ _ _ only x member => imp _ (only x member)⟩

theorem pure (a : α) : (Pure.pure a : Task α).Only C :=
  ⟨fun _ => (ensures_pure a).mpr (List.forall_mem_nil _)⟩

theorem fail (f : Fault) : (Task.fail f : Task α).Only C :=
  ⟨fun _ => (ensures_fail f).mpr (List.forall_mem_nil _)⟩

theorem ofExcept (r : Except Fault α) : (Task.ofExcept r).Only C :=
  ⟨fun _ => (ensures_ofExcept r).mpr (List.forall_mem_nil _)⟩

theorem env : Task.env.Only C := ⟨fun _ => ensures_env.mpr (List.forall_mem_nil _)⟩

theorem change (f : Environment → Environment) : (Task.change f).Only C :=
  ⟨fun _ => (ensures_change f).mpr (List.forall_mem_nil _)⟩

theorem log (level : Log.Level) (logger message : String) : (Task.log level logger message).Only C :=
  ⟨fun _ => (ensures_log level logger message).mpr (List.forall_mem_nil _)⟩

theorem ask {c : Call} (h : C c) : (Task.ask c).Only C :=
  ⟨fun _ => (ensures_ask c).mpr fun _ => List.forall_mem_singleton.mpr h⟩

theorem tell {c : Call} (h : C c) : (Task.tell c).Only C :=
  ⟨fun _ => (ensures_tell c).mpr fun _ => List.forall_mem_singleton.mpr h⟩

theorem attempt {t : Task α} (h : t.Only C) : t.attempt.Only C :=
  ⟨fun p => (ensures_attempt t).mpr (h.ensures p)⟩

theorem within {t : Task α} (tags : Log.Tags) (h : t.Only C) : (Task.within tags t).Only C :=
  ⟨fun _ => (ensures_within tags t).mpr (h.ensures _)⟩

theorem bind {t : Task α} {f : α → Task β} (ht : t.Only C) (hf : ∀ a, (f a).Only C) :
    (t >>= f).Only C := by
  refine ⟨fun p => (ensures_bind t f).mpr ((ht.ensures p).mono ?_)⟩
  rintro es (g | a) p' only
  · exact only
  · exact ((hf a).ensures p').mono fun es' r p'' only' => List.forall_mem_append.mpr ⟨only, only'⟩

theorem checkpoint (label : String) (saves : ∀ e, C (.save e)) : (Task.checkpoint label).Only C := by
  refine ⟨fun _ => (ensures_checkpoint label).mpr ⟨?_, fun g => ?_⟩⟩
  · exact List.forall_mem_singleton.mpr (saves _)
  · exact List.forall_mem_singleton.mpr (saves _)

theorem checkpointThenFail (label : String) (f : Fault) (saves : ∀ e, C (.save e)) :
    (Task.checkpointThenFail label f : Task α).Only C := by
  refine ⟨fun _ => (ensures_checkpointThenFail label f).mpr ⟨?_, fun g => ?_⟩⟩
  · exact List.forall_mem_singleton.mpr (saves _)
  · exact List.forall_mem_singleton.mpr (saves _)

end Only
end Task

def Call.checks : Call → Bool
  | .validateRecord _ | .validateAws _ | .validateGcp _ => true
  | _ => false

/-- Calls that come before the steps of a run: its checks and the questions that go with them. -/
def Call.prepares : Call → Bool
  | .prompt _ | .terraformVersion => true
  | c => c.checks

theorem Call.validating_of_unchecking {c : Call} (h : c.checks = false) : c.validating = none := by
  cases c with
  | validateRecord => cases h
  | _ => rfl

theorem Call.unchecking_of_unpreparing {c : Call} (h : c.prepares = false) : c.checks = false := by
  cases c with
  | prompt | terraformVersion => rfl
  | _ => exact h

open Dismantle.Teardown.Task

theorem deleteDirector_only : Only (·.prepares = false) deleteDirector := by
  refine .bind .env fun e => ?_
  split
  case isTrue => exact .tell rfl
  case isFalse =>
      refine .bind (.tell rfl) fun _ => .bind (.log _ _ _) fun _ => ?_
      refine .bind (.attempt (.tell rfl)) fun r => ?_
      split
      · refine .bind (.log _ _ _) fun _ => ?_
        exact .bind (.change _) fun _ => .checkpointThenFail _ _ fun _ => rfl
      · exact .fail _
      · exact .bind (.change _) fun _ => .checkpoint _ fun _ => rfl

theorem deleteStack_only : Only (·.prepares = false) deleteStack := by
  refine .bind .env fun e => ?_
  dsimp only
  split
  case isTrue => exact .tell rfl
  case isFalse =>
      refine .bind (.attempt (.ask rfl)) fun r => ?_
      split
      · exact .bind (.log _ _ _) fun _ => .tell rfl
      · exact .fail _
      · refine .bind (.tell rfl) fun _ => .bind (.tell rfl) fun _ => .bind (.tell rfl) fun _ => ?_
        exact .bind (.change _) fun _ => .checkpoint _ fun _ => rfl

theorem deleteCertificate_only : Only (·.prepares = false) deleteCertificate := by
  refine .bind .env fun e => ?_
  split
  case isTrue =>
      refine .bind (.tell rfl) fun _ => .bind (.tell rfl) fun _ => ?_
      exact .bind (.change _) fun _ => .checkpoint _ fun _ => rfl
  case isFalse => exact .pure ()

theorem tearDownStack_only : Only (·.prepares = false) tearDownStack :=
  .bind deleteStack_only fun _ => deleteCertificate_only

theorem tearDownAws_only : Only (·.prepares = false) tearDownAws := by
  refine .bind tearDownStack_only fun _ => .bind (.tell rfl) fun _ => ?_
  refine .bind .env fun e => .bind (.tell rfl) fun _ => ?_
  exact .bind (.change _) fun _ => .checkpoint _ fun _ => rfl

theorem destroyInfrastructure_only : Only (·.prepares = false) destroyInfrastructure := by
  refine .bind .env fun e => .bind (.attempt (.ask rfl)) fun r => ?_
  split
  · refine .bind (.log _ _ _) fun _ => ?_
    exact .bind (.change _) fun _ => .checkpointThenFail _ _ fun _ => rfl
  · exact .fail _
  · exact .change _

theorem tearDownGcp_only : Only (·.prepares = false) tearDownGcp := by
  refine .bind .env fun e => .bind (.ask rfl) fun outputs => .bind (.tell rfl) fun _ => ?_
  refine .bind (.tell rfl) fun _ => .bind destroyInfrastructure_only fun _ => ?_
  refine .bind (.tell rfl) fun _ => .bind (.tell rfl) fun _ => ?_
  exact .bind (.change _) fun _ => .checkpoint _ fun _ => rfl

theorem tearDown_only (provider : Provider) : Only (·.prepares = false) (tearDown provider) := by
  cases provider with
  | unset => exact tearDownStack_only
  | aws => exact tearDownAws_only
  | gcp => exact tearDownGcp_only

theorem dismantle_only (provider : Provider) (envId : String) :
    Only (·.prepares = false) (dismantle provider envId) := by
  refine .bind (.log _ _ _) fun _ => .bind (.within _ deleteDirector_only) fun _ => ?_
  exact .bind (.within _ (tearDown_only provider)) fun _ => .log _ _ _

theorem Skipping.unvalidating {flags : Flags} {e : Environment} {r : Except Fault Bool}
    (h : Skipping flags e es r) : Unvalidating es := by
  cases h with
  | kept => exact List.forall_mem_nil _
  | skipped => exact List.forall_mem_singleton.mpr rfl

theorem skipMissing_only (flags : Flags) (e : Environment) :
    Only (·.checks = false) (skipMissing flags e) := by
  unfold skipMissing
  split
  case isTrue => exact .bind (.tell rfl) fun _ => .pure true
  case isFalse => exact .pure false

theorem confirm_only (flags : Flags) (e : Environment) :
    Only (·.checks = false) (confirm flags e) := by
  unfold confirm
  split
  case isTrue => exact .pure true
  case isFalse =>
      refine .bind (.ask rfl) fun answer => ?_
      split
      case isTrue => exact .pure true
      case isFalse => exact .bind (.log _ _ _) fun _ => .bind (.tell rfl) fun _ => .pure false

theorem checkVersion_only {C : Call → Prop} (asks : C .terraformVersion) : Only C checkVersion :=
  .bind (.ask asks) fun _ => .bind (.ofExcept _) fun _ => .log _ _ _

/-- A check is a check of what the record holds. -/
def Call.Concerns (e : Environment) : Call → Prop
  | .validateRecord e' => e' = e
  | .validateAws a => e.provider = .aws ∧ a = e.aws
  | .validateGcp g => e.provider = .gcp ∧ g = e.gcp
  | _ => True

theorem Call.concerns_of_unchecking {c : Call} {e : Environment} (h : c.checks = false) :
    c.Concerns e := by
  cases c with
  | validateRecord | validateAws | validateGcp => cases h
  | _ => trivial

theorem validateCredentials_only {C : Call → Prop} {e : Environment}
    (aws : e.provider = .aws → C (.validateAws e.aws))
    (gcp : e.provider = .gcp → C (.validateGcp e.gcp)) : Only C (validateCredentials e) := by
  unfold validateCredentials
  split
  case h_1 provider => exact .tell (aws provider)
  case h_2 provider => exact .tell (gcp provider)
  case h_3 => exact .log _ _ _

theorem behind_consent {C : Call → Prop} (supported : List Provider) {e : Environment}
    (version : C .terraformVersion) (aws : e.provider = .aws → C (.validateAws e.aws))
    (gcp : e.provider = .gcp → C (.validateGcp e.gcp)) (works : ∀ c, c.prepares = false → C c) :
    Task.Only C (do
      checkVersion
      validateCredentials e
      if !supported.contains e.provider then
        Task.fail (.report .validation ("unsupported IAAS: " ++ Text.quoted e.provider.text))
      dismantle e.provider e.envId
      return Status.completed) := by
  refine .bind (checkVersion_only version) fun _ => .bind (validateCredentials_only aws gcp) fun _ => ?_
  have dismantles := (dismantle_only e.provider e.envId).mono works
  dsimp only
  split
  case isTrue => exact .bind (.fail _) fun _ => .bind dismantles fun _ => .pure _
  case isFalse => exact .bind dismantles fun _ => .pure _

theorem behind_validation (supported : List Provider) (flags : Flags) (e : Environment) :
    Task.Only (fun c => c.Concerns e ∧ c.validating = none) (do
      if !(← confirm flags e) then return Status.cancelled
      checkVersion
      validateCredentials e
      if !supported.contains e.provider then
        Task.fail (.report .validation ("unsupported IAAS: " ++ Text.quoted e.provider.text))
      dismantle e.provider e.envId
      return .completed) := by
  have harmless (c : Call) (h : c.checks = false) : c.Concerns e ∧ c.validating = none :=
    ⟨c.concerns_of_unchecking h, c.validating_of_unchecking h⟩
  refine .bind ((confirm_only flags e).mono harmless) fun agreed => ?_
  split
  case isTrue => exact .pure _
  case isFalse =>
      exact behind_consent supported ⟨trivial, rfl⟩ (fun aws => ⟨⟨aws, rfl⟩, rfl⟩)
        (fun gcp => ⟨⟨gcp, rfl⟩, rfl⟩) fun c working => harmless c (c.unchecking_of_unpreparing working)

theorem runGuarded_only (supported : List Provider) (flags : Flags) (e : Environment) :
    Only (·.Concerns e) (runGuarded supported flags e) := by
  refine .bind ((skipMissing_only flags e).mono fun c => c.concerns_of_unchecking) fun skipped => ?_
  split
  case isTrue => exact .pure _
  case isFalse =>
      refine .bind (.tell rfl) fun _ => ?_
      exact (behind_validation supported flags e).mono fun _ => And.left

theorem runGuarded_validatesFirst (supported : List Provider) (flags : Flags) (p : Progress) :
    (runGuarded supported flags p.env).Ensures p fun es _ _ => ValidatesFirst p.env es := by
  refine (ensures_bind _ _).mpr ((skipMissing_checks flags p.env p).ensures.mono ?_)
  rintro es (g | skipped) p' ⟨quiet, rfl, skipping⟩
  · exact skipping.unvalidating.validatesFirst
  dsimp only
  split
  case isTrue =>
      refine (ensures_pure _).mpr ?_
      rw [List.append_nil]
      exact skipping.unvalidating.validatesFirst
  case isFalse =>
      refine (ensures_bind _ _).mpr ((ensures_tell _).mpr fun answer => ?_)
      have valid : ValidatesFirst p'.env [⟨.validateRecord p'.env, answer⟩] := by
        intro before x after e split validating
        cases before with
        | nil =>
            cases split
            cases validating
            exact ⟨rfl, List.forall_mem_nil _⟩
        | cons y before => simp at split
      cases answer with
      | error g => exact valid.behind quiet skipping.unvalidating
      | ok =>
          have behind := (behind_validation supported flags p'.env).mono fun _ => And.right
          refine (behind.ensures p').mono fun es' r p'' none => ?_
          exact (valid.append none).behind quiet skipping.unvalidating

/-- Whoever answers its calls, a run validates the record it starts from, before it touches
anything, and no other. -/
theorem run_validatesFirst {σ : Type} (h : Handler σ) (s : σ) (supported : List Provider)
    (arguments : List String) (p : Progress) :
    ValidatesFirst p.env ((run supported arguments p).history h s) := by
  have validates : (run supported arguments).Ensures p fun es _ _ => ValidatesFirst p.env es := by
    refine run_ensures_of_guarded (Q := fun es _ _ => ValidatesFirst p.env es) (fun _ _ => ?_)
      fun flags tags _ => runGuarded_validatesFirst supported flags { p with tags }
    exact Unvalidating.validatesFirst (List.forall_mem_nil _)
  exact validates.performed h s

/-- Whoever answers its calls, a run checks what the record that it starts from holds. -/
theorem run_concerns {σ : Type} (h : Handler σ) (s : σ) (supported : List Provider)
    (arguments : List String) (p : Progress) {x : Exchange}
    (member : x ∈ (run supported arguments p).history h s) : x.call.Concerns p.env := by
  have only : (run supported arguments).Ensures p fun es _ _ => ∀ x ∈ es, x.call.Concerns p.env :=
    run_ensures_of_guarded (Q := fun es _ _ => ∀ x ∈ es, x.call.Concerns p.env)
      (fun _ _ => List.forall_mem_nil _)
      fun flags tags _ => (runGuarded_only supported flags p.env).ensures { p with tags }
  exact only.performed h s x member

end Dismantle.Teardown
