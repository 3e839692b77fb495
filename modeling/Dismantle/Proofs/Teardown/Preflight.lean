import Dismantle.Proofs.Teardown.Orderly
/-! Nothing is touched before all checks have passed, and a run that a check ends leaves everything
as it was. -/
namespace Dismantle.Teardown

/-- Calls that look at or change what an environment consists of, or save its record. -/
def Call.touches : Call → Bool
  | .deleteDirector _ | .describeStack _ | .checkVpc _ | .deleteStack _ | .deleteCertificate _
  | .deleteAwsKeyPair _ | .terraformOutputs _ | .checkNetwork _ | .terraformDestroy _
  | .deleteGcpKeyPair _ | .save _ => true
  | _ => false

def Untouching (es : List Exchange) : Prop := ∀ x ∈ es, x.call.touches = false

/-- The user agrees, by a flag or when asked. -/
inductive Consent (flags : Flags) (e : Environment) : List Exchange → Prop where
  | given : flags.noConfirm = true → Consent flags e []
  | asked (answer : String) : flags.noConfirm = false → isConsent answer = true →
      Consent flags e [⟨.prompt (question e.envId), .ok answer⟩]

/-- What the check of the credentials of the record's provider has told. -/
def credentialsChecked (e : Environment) (told : Except Fault Unit) : List Exchange :=
  match e.provider with
  | .aws => [⟨.validateAws e.aws, told⟩]
  | .gcp => [⟨.validateGcp e.gcp, told⟩]
  | .unset => []

/-- The flags are known, and the record is not to be skipped. -/
structure Considered (arguments : List String) (e : Environment) (flags : Flags) : Prop where
  parsed : Flags.parse arguments = .ok flags
  kept : (flags.skipIfMissing && e.isEmpty) = false

/-- The record is valid, and the user agrees. -/
inductive Agreed (arguments : List String) (e : Environment) : List Exchange → Prop where
  | intro {flags : Flags} {consent : List Exchange} : Considered arguments e flags →
      Consent flags e consent → Agreed arguments e (⟨.validateRecord e, .ok ()⟩ :: consent)

/-- Then the terraform program is found to be recent enough. -/
inductive Equipped (arguments : List String) (e : Environment) : List Exchange → Prop where
  | intro {es : List Exchange} {found : String} {v : Terraform.Version} : Agreed arguments e es →
      Terraform.Version.parse found = .ok v → v.atLeast ⟨0, 8, 5⟩ = true →
      Equipped arguments e (es ++ [⟨.terraformVersion, .ok found⟩])

/-- All checks have passed with these calls, in this order. -/
inductive Passed (supported : List Provider) (arguments : List String) (e : Environment) :
    List Exchange → Prop where
  | intro {es : List Exchange} : Equipped arguments e es → e.provider ∈ supported →
      Passed supported arguments e (es ++ credentialsChecked e (.ok ()))

/-- The ends that checks put to a run, and the calls until then. An end is a quiet one only if it
could be told. -/
inductive Halted (supported : List Provider) (arguments : List String) (e : Environment) :
    List Exchange → Except Fault Status → Prop where
  | flags {f : Fault} : Flags.parse arguments = .error f → Halted supported arguments e [] (.error f)
  | skipped {flags : Flags} (told : Except Fault Unit) : Flags.parse arguments = .ok flags →
      (flags.skipIfMissing && e.isEmpty) = true →
      Halted supported arguments e
        [⟨.step "state file not found, and --skip-if-missing flag provided, exiting", told⟩]
        (told.map fun _ => .skipped)
  | invalid {flags : Flags} (f : Fault) : Considered arguments e flags →
      Halted supported arguments e [⟨.validateRecord e, .error f⟩] (.error f)
  | unanswered {flags : Flags} (f : Fault) : Considered arguments e flags →
      flags.noConfirm = false →
      Halted supported arguments e
        [⟨.validateRecord e, .ok ()⟩, ⟨.prompt (question e.envId), .error f⟩] (.error f)
  | declined {flags : Flags} (answer : String) (told : Except Fault Unit) :
      Considered arguments e flags → flags.noConfirm = false → isConsent answer = false →
      Halted supported arguments e
        [⟨.validateRecord e, .ok ()⟩, ⟨.prompt (question e.envId), .ok answer⟩,
          ⟨.step "exiting", told⟩]
        (told.map fun _ => .cancelled)
  | unequipped {es : List Exchange} (f : Fault) : Agreed arguments e es →
      Halted supported arguments e (es ++ [⟨.terraformVersion, .error f⟩]) (.error f)
  | outdated {es : List Exchange} {found : String} {f : Fault} : Agreed arguments e es →
      judgeVersion found = .error f →
      Halted supported arguments e (es ++ [⟨.terraformVersion, .ok found⟩]) (.error f)
  | unauthorized {es : List Exchange} (f : Fault) : Equipped arguments e es →
      e.provider ≠ .unset →
      Halted supported arguments e (es ++ credentialsChecked e (.error f)) (.error f)
  | unsupported {es : List Exchange} : Equipped arguments e es → e.provider ∉ supported →
      Halted supported arguments e (es ++ credentialsChecked e (.ok ()))
        (.error (.report .validation ("unsupported IAAS: " ++ Text.quoted e.provider.text)))

/-- How a run stands to its checks. -/
structure Guarded (supported : List Provider) (arguments : List String) (start : Progress)
    (es : List Exchange) (r : Except Fault Outcome) (now : Progress) : Prop where
  /-- Before the first call that touches anything, all checks have passed. -/
  checked : ∀ before x after, es = before ++ x :: after → x.call.touches = true →
    ∃ passed rest, before = passed ++ rest ∧ Passed supported arguments start.env passed
  /-- A run that is skipped or cancelled, or whose checks have not all passed, touches nothing. -/
  halted : ((∃ outcome, r = .ok outcome ∧ outcome.status ≠ .completed) ∨
      ¬∃ passed rest, es = passed ++ rest ∧ Passed supported arguments start.env passed) →
    Untouching es ∧ now = start ∧ Halted supported arguments start.env es (r.map (·.status))

theorem Untouching.append {es es' : List Exchange} (h : Untouching es) (h' : Untouching es') :
    Untouching (es ++ es') :=
  List.forall_mem_append.mpr ⟨h, h'⟩

namespace Task
variable {α β : Type}

/-- A task that touches nothing and leaves progress as it is. Its calls and its result are as `Q`
says. -/
structure Checks (t : Task α) (p : Progress) (Q : List Exchange → Except Fault α → Prop) : Prop where
  ensures : t.Ensures p fun es r p' => Untouching es ∧ p' = p ∧ Q es r

namespace Checks
variable {p : Progress} {Q : List Exchange → Except Fault α → Prop}

theorem mono {t : Task α} {R : List Exchange → Except Fault α → Prop} (ht : t.Checks p R)
    (h : ∀ es r, R es r → Q es r) : t.Checks p Q := by
  refine ⟨ht.ensures.mono ?_⟩
  rintro es r p' ⟨untouching, same, given⟩
  exact ⟨untouching, same, h es r given⟩

theorem pure {a : α} (h : Q [] (.ok a)) : (Pure.pure a : Task α).Checks p Q :=
  ⟨(ensures_pure a).mpr ⟨List.forall_mem_nil _, rfl, h⟩⟩

theorem ofExcept {r : Except Fault α} (h : Q [] r) : (Task.ofExcept r).Checks p Q :=
  ⟨(ensures_ofExcept r).mpr ⟨List.forall_mem_nil _, rfl, h⟩⟩

theorem log {Q : List Exchange → Except Fault Unit → Prop} {level : Log.Level}
    {logger message : String} (h : Q [] (.ok ())) : (Task.log level logger message).Checks p Q :=
  ⟨(ensures_log level logger message).mpr ⟨List.forall_mem_nil _, rfl, h⟩⟩

theorem ask {c : Call} (untouching : c.touches = false) :
    (Task.ask c).Checks p fun es answer => es = [⟨c, answer⟩] :=
  ⟨(ensures_ask c).mpr fun _ => ⟨List.forall_mem_singleton.mpr untouching, rfl, rfl⟩⟩

theorem tell {c : Call} (untouching : c.touches = false) :
    (Task.tell c).Checks p fun es told =>
      ∃ answer, es = [⟨c, answer⟩] ∧ told = answer.map fun _ => () :=
  ⟨(ensures_tell c).mpr fun answer =>
    ⟨List.forall_mem_singleton.mpr untouching, rfl, answer, rfl, rfl⟩⟩

theorem bind {t : Task β} {f : β → Task α} {R : List Exchange → Except Fault β → Prop}
    (ht : t.Checks p R) (fails : ∀ es g, R es (.error g) → Q es (.error g))
    (succeeds : ∀ es b, R es (.ok b) → (f b).Checks p fun es' => Q (es ++ es')) :
    (t >>= f).Checks p Q := by
  refine ⟨(ensures_bind _ _).mpr (ht.ensures.mono ?_)⟩
  rintro es (g | b) p' ⟨untouching, rfl, given⟩
  · exact ⟨untouching, rfl, fails es g given⟩
  · refine (succeeds es b given).ensures.mono ?_
    rintro es' r p'' ⟨untouching', rfl, given'⟩
    exact ⟨untouching.append untouching', rfl, given'⟩

end Checks
end Task

open Dismantle.Teardown.Task

/-- Whether a record that is missing ends the run, and what is said then. -/
inductive Skipping (flags : Flags) (e : Environment) : List Exchange → Except Fault Bool → Prop where
  | kept : (flags.skipIfMissing && e.isEmpty) = false → Skipping flags e [] (.ok false)
  | skipped (told : Except Fault Unit) : (flags.skipIfMissing && e.isEmpty) = true →
      Skipping flags e
        [⟨.step "state file not found, and --skip-if-missing flag provided, exiting", told⟩]
        (told.map fun _ => true)

/-- Whether the user agrees, and what is said to one who does not. -/
inductive Decision (flags : Flags) (e : Environment) : List Exchange → Except Fault Bool → Prop where
  | agreed {es : List Exchange} : Consent flags e es → Decision flags e es (.ok true)
  | unanswered (f : Fault) : flags.noConfirm = false →
      Decision flags e [⟨.prompt (question e.envId), .error f⟩] (.error f)
  | declined (answer : String) (told : Except Fault Unit) : flags.noConfirm = false →
      isConsent answer = false →
      Decision flags e [⟨.prompt (question e.envId), .ok answer⟩, ⟨.step "exiting", told⟩]
        (told.map fun _ => false)

/-- Whether the terraform program is recent enough. -/
inductive VersionJudged : List Exchange → Except Fault Unit → Prop where
  | recent {found : String} {v : Terraform.Version} : Terraform.Version.parse found = .ok v →
      v.atLeast ⟨0, 8, 5⟩ = true → VersionJudged [⟨.terraformVersion, .ok found⟩] (.ok ())
  | outdated {found : String} {f : Fault} : judgeVersion found = .error f →
      VersionJudged [⟨.terraformVersion, .ok found⟩] (.error f)
  | unknown (f : Fault) : VersionJudged [⟨.terraformVersion, .error f⟩] (.error f)

section
variable {supported : List Provider} {arguments : List String} {e : Environment} {flags : Flags}
  {before es : List Exchange}

theorem Skipping.halted {r : Except Fault Bool} (h : Skipping flags e es r)
    (parsed : Flags.parse arguments = .ok flags) (stops : r ≠ .ok false) :
    Halted supported arguments e es (r.map fun _ => .skipped) := by
  cases h with
  | kept => exact absurd rfl stops
  | skipped told missing => cases told <;> exact .skipped _ parsed missing

theorem Skipping.considered {r : Except Fault Bool} (h : Skipping flags e es r)
    (parsed : Flags.parse arguments = .ok flags) (goesOn : r = .ok false) :
    es = [] ∧ Considered arguments e flags := by
  cases h with
  | kept there => exact ⟨rfl, parsed, there⟩
  | skipped told missing => cases told <;> cases goesOn

theorem Decision.halted {r : Except Fault Bool} (h : Decision flags e es r)
    (considered : Considered arguments e flags) (stops : r ≠ .ok true) :
    Halted supported arguments e (⟨.validateRecord e, .ok ()⟩ :: es) (r.map fun _ => .cancelled) := by
  cases h with
  | agreed => exact absurd rfl stops
  | unanswered f off => exact .unanswered f considered off
  | declined answer told off declined =>
      cases told <;> exact .declined answer _ considered off declined

theorem Decision.consent {r : Except Fault Bool} (h : Decision flags e es r)
    (goesOn : r = .ok true) : Consent flags e es := by
  cases h with
  | agreed consent => exact consent
  | unanswered => cases goesOn
  | declined answer told => cases told <;> cases goesOn

theorem VersionJudged.halted {f : Fault} (h : VersionJudged es (.error f))
    (agreed : Agreed arguments e before) :
    Halted supported arguments e (before ++ es) (.error f) := by
  cases h with
  | outdated judged => exact .outdated agreed judged
  | unknown => exact .unequipped f agreed

theorem VersionJudged.equipped (h : VersionJudged es (.ok ()))
    (agreed : Agreed arguments e before) : Equipped arguments e (before ++ es) := by
  cases h with
  | recent parsed recent => exact .intro agreed parsed recent

end

theorem skipMissing_checks (flags : Flags) (e : Environment) (p : Progress) :
    (skipMissing flags e).Checks p (Skipping flags e) := by
  unfold skipMissing
  split
  case isTrue missing =>
      refine .bind (.tell rfl) ?_ ?_
      · rintro es g ⟨answer | _, rfl, ⟨⟩⟩
        exact .skipped (.error g) missing
      · rintro es _ ⟨_ | ⟨⟩, rfl, ⟨⟩⟩
        exact .pure (.skipped (.ok ()) missing)
  case isFalse there => exact .pure (.kept (Bool.eq_false_iff.mpr there))

theorem confirm_checks (flags : Flags) (e : Environment) (p : Progress) :
    (confirm flags e).Checks p (Decision flags e) := by
  unfold confirm
  split
  case isTrue on => exact .pure (.agreed (.given on))
  case isFalse off =>
      have off := Bool.eq_false_iff.mpr off
      refine .bind (.ask rfl) ?_ ?_
      · rintro es g rfl
        exact .unanswered g off
      rintro es (answer : String) rfl
      split
      case isTrue agreed => exact .pure (.agreed (.asked answer off agreed))
      case isFalse declined =>
          have declined := Bool.eq_false_iff.mpr declined
          refine .bind (.log (Q := fun es told => es = [] ∧ told = .ok ()) ⟨rfl, rfl⟩) nofun ?_
          rintro es _ ⟨rfl, -⟩
          refine .bind (.tell rfl) ?_ ?_
          · rintro es g ⟨_ | _, rfl, ⟨⟩⟩
            exact .declined answer (.error g) off declined
          · rintro es _ ⟨_ | ⟨⟩, rfl, ⟨⟩⟩
            exact .pure (.declined answer (.ok ()) off declined)

theorem judgeVersion_ok {found : String} (h : judgeVersion found = .ok ()) :
    ∃ v, Terraform.Version.parse found = .ok v ∧ v.atLeast ⟨0, 8, 5⟩ = true := by
  unfold judgeVersion at h
  split at h
  case h_1 => cases h
  case h_2 v parsed =>
      split at h
      case isTrue recent => exact ⟨v, parsed, recent⟩
      case isFalse => cases h

theorem checkVersion_checks (p : Progress) : checkVersion.Checks p VersionJudged := by
  refine .bind (.ask rfl) ?_ ?_
  · rintro es g rfl
    exact .unknown g
  rintro es (found : String) rfl
  refine .bind (.ofExcept (Q := fun es r => es = [] ∧ judgeVersion found = r) ⟨rfl, rfl⟩) ?_ ?_
  · rintro es g ⟨rfl, judged⟩
    exact .outdated judged
  · rintro es _ ⟨rfl, judged⟩
    obtain ⟨v, parsed, recent⟩ := judgeVersion_ok judged
    exact .log (.recent parsed recent)

theorem validateCredentials_checks (e : Environment) (p : Progress) :
    (validateCredentials e).Checks p fun es told =>
      es = credentialsChecked e told ∧ (e.provider = .unset → told = .ok ()) := by
  unfold validateCredentials credentialsChecked
  cases e.provider with
  | unset => exact .log ⟨rfl, fun _ => rfl⟩
  | aws | gcp =>
      refine .mono (.tell rfl) ?_
      rintro es _ ⟨_ | _, rfl, rfl⟩
      · exact ⟨rfl, nofun⟩
      · exact ⟨rfl, nofun⟩

/-- A run, once its flags are known, is ended by a check, or all checks pass. -/
inductive Sieved (supported : List Provider) (arguments : List String) (start : Progress)
    (es : List Exchange) (r : Except Fault Status) (now : Progress) : Prop where
  | halted : Untouching es → now = start → Halted supported arguments start.env es r →
      Sieved supported arguments start es r now
  | passed {passed : List Exchange} (rest : List Exchange) : es = passed ++ rest →
      Passed supported arguments start.env passed → (∀ status, r = .ok status → status = .completed) →
      Sieved supported arguments start es r now

theorem Sieved.retagged {supported : List Provider} {arguments : List String}
    {start now : Progress} {es : List Exchange} {r : Except Fault Status} {inner : Log.Tags}
    (h : Sieved supported arguments { start with tags := inner } es r now) (tags : Log.Tags) :
    Sieved supported arguments { start with tags } es r { now with tags } := by
  cases h with
  | halted untouching same halted => exact .halted untouching (by rw [same]) halted
  | passed rest split passed completed => exact .passed rest split passed completed

/-- A check that others follow: where it fails, it ends the run. -/
theorem Task.Checks.next {α : Type} {t : Task α} {f : α → Task Status} {p : Progress}
    {R : List Exchange → Except Fault α → Prop} {supported : List Provider}
    {arguments : List String} {before : List Exchange} (ht : t.Checks p R)
    (untouching : Untouching before)
    (fails : ∀ es g, R es (.error g) → Halted supported arguments p.env (before ++ es) (.error g))
    (succeeds : ∀ es a, Untouching (before ++ es) → R es (.ok a) → (f a).Ensures p fun es' =>
      Sieved supported arguments p (before ++ es ++ es')) :
    (t >>= f).Ensures p fun es => Sieved supported arguments p (before ++ es) := by
  refine (ensures_bind _ _).mpr (ht.ensures.mono ?_)
  rintro es (g | a) p' ⟨untouching', rfl, given⟩
  · exact .halted (untouching.append untouching') rfl (fails es g given)
  · simpa only [List.append_assoc] using succeeds es a (untouching.append untouching') given

theorem runGuarded_ensures {arguments : List String} {flags : Flags} (supported : List Provider)
    (parsed : Flags.parse arguments = .ok flags) (p : Progress) :
    (runGuarded supported flags p.env).Ensures p (Sieved supported arguments p) := by
  -- Each check either ends the run or hands the calls made so far over to the next one.
  refine (skipMissing_checks flags p.env p).next (List.forall_mem_nil _)
    (fun es g skipping => skipping.halted parsed nofun) ?_
  intro es skipped untouching skipping
  cases skipped with
  | true =>
      have halted : Halted supported arguments p.env es (.ok .skipped) := skipping.halted parsed nofun
      exact .halted (by simpa using untouching) rfl (by simpa using halted)
  | false =>
  obtain ⟨rfl, considered⟩ := skipping.considered parsed rfl
  refine Checks.next (.tell rfl) untouching ?_ ?_
  · rintro es g ⟨_ | _, rfl, ⟨⟩⟩
    exact .invalid g considered
  rintro es ⟨⟩ untouching ⟨_ | ⟨⟨⟩⟩, rfl, ⟨⟩⟩
  refine (confirm_checks flags p.env p).next untouching
    (fun es g decision => decision.halted considered nofun) ?_
  intro consent agreed untouching decision
  cases agreed with
  | false =>
      have halted : Halted supported arguments p.env _ (.ok .cancelled) :=
        decision.halted considered nofun
      exact .halted (by simpa using untouching) rfl (by simpa using halted)
  | true =>
  have agreed : Agreed arguments p.env _ := .intro considered (decision.consent rfl)
  refine (checkVersion_checks p).next untouching (fun es g judged => judged.halted agreed) ?_
  intro es _ untouching judged
  have equipped := judged.equipped agreed
  refine (validateCredentials_checks p.env p).next untouching ?_ ?_
  · rintro es g ⟨rfl, recorded⟩
    exact .unauthorized g equipped fun unset => nomatch recorded unset
  rintro es ⟨⟩ untouching ⟨rfl, -⟩
  dsimp only
  split
  case isTrue unregistered =>
      have halted : Halted supported arguments p.env _ _ :=
        .unsupported equipped (by simpa using unregistered)
      rw [fail_bind]
      exact .halted (by simpa using untouching) rfl (by simpa using halted)
  case isFalse registered =>
      have passed : Passed supported arguments p.env _ := .intro equipped (by simpa using registered)
      refine (ensures_bind _ _).mpr (ensures_of_forall _ ?_)
      rintro rest (g | _) p'
      · exact .passed rest rfl passed nofun
      · exact .passed (rest ++ []) rfl passed fun _ same => (Except.ok.inj same).symm

theorem Consent.untouching {flags : Flags} {e : Environment} {es : List Exchange}
    (h : Consent flags e es) : Untouching es := by
  cases h with
  | given => exact List.forall_mem_nil _
  | asked => exact List.forall_mem_singleton.mpr rfl

theorem credentialsChecked_untouching (e : Environment) (told : Except Fault Unit) :
    Untouching (credentialsChecked e told) := by
  unfold credentialsChecked
  split
  · exact List.forall_mem_singleton.mpr rfl
  · exact List.forall_mem_singleton.mpr rfl
  · exact List.forall_mem_nil _

theorem Agreed.untouching {arguments : List String} {e : Environment} {es : List Exchange}
    (h : Agreed arguments e es) : Untouching es := by
  cases h with
  | intro _ consent => exact List.forall_mem_cons.mpr ⟨rfl, consent.untouching⟩

theorem Equipped.untouching {arguments : List String} {e : Environment} {es : List Exchange}
    (h : Equipped arguments e es) : Untouching es := by
  cases h with
  | intro agreed => exact agreed.untouching.append (List.forall_mem_singleton.mpr rfl)

theorem Passed.untouching {supported : List Provider} {arguments : List String} {e : Environment}
    {es : List Exchange} (h : Passed supported arguments e es) : Untouching es := by
  cases h with
  | intro equipped => exact equipped.untouching.append (credentialsChecked_untouching e _)

/-- A place in two histories, one after the other, lies in the first or behind it. -/
theorem place_of_append {es rest before after : List Exchange} {x : Exchange}
    (same : es ++ rest = before ++ x :: after) :
    (∃ more, es = before ++ x :: more) ∨ ∃ more, before = es ++ more ∧ rest = more ++ x :: after := by
  rcases List.append_eq_append_iff.mp same with ⟨more, rfl, split⟩ | ⟨more, rfl, split⟩
  · exact .inr ⟨more, rfl, split⟩
  · cases more with
    | nil => exact .inr ⟨[], by simp, split.symm⟩
    | cons y more =>
        cases split
        exact .inl ⟨more, rfl⟩

/-- A call that touches something stands behind the checks. -/
theorem Untouching.behind {es rest before after : List Exchange} {x : Exchange} (h : Untouching es)
    (same : es ++ rest = before ++ x :: after) (touches : x.call.touches = true) :
    ∃ rest, before = es ++ rest := by
  rcases place_of_append same with ⟨more, rfl⟩ | ⟨more, behind, -⟩
  · have none := h x (List.mem_append_right _ List.mem_cons_self)
    rw [touches] at none
    cases none
  · exact ⟨more, behind⟩

theorem Sieved.guarded {supported : List Provider} {arguments : List String}
    {start now : Progress} {es : List Exchange} {r : Except Fault Outcome}
    (h : Sieved supported arguments start es (r.map (·.status)) now) :
    Guarded supported arguments start es r now := by
  cases h with
  | halted untouching same halted =>
      refine ⟨?_, fun _ => ⟨untouching, same, halted⟩⟩
      rintro before x after rfl touches
      have none := untouching x (List.mem_append_right _ List.mem_cons_self)
      rw [touches] at none
      cases none
  | passed _ split passed completed =>
      refine ⟨fun before x after same touches => ?_, fun ended => ?_⟩
      · obtain ⟨rest, behind⟩ := passed.untouching.behind (split.symm.trans same) touches
        exact ⟨_, rest, behind, passed⟩
      · rcases ended with ⟨outcome, rfl, other⟩ | missing
        · exact absurd (completed _ rfl) other
        · exact absurd ⟨_, _, split, passed⟩ missing

/-- What holds of a run behind its flags, whatever its log records are tagged with, holds of the run. -/
theorem run_ensures_of_guarded {supported : List Provider} {arguments : List String} {p : Progress}
    {Q : List Exchange → Except Fault Status → Progress → Prop}
    (unread : ∀ f, Flags.parse arguments = .error f → Q [] (.error f) p)
    (guarded : ∀ flags tags, Flags.parse arguments = .ok flags →
      (runGuarded supported flags p.env).Ensures { p with tags } fun es r now =>
        Q es r { now with tags := p.tags }) :
    (run supported arguments).Ensures p fun es r => Q es (r.map (·.status)) := by
  refine (ensures_bind _ _).mpr (ensures_saved.mpr ?_)
  refine (ensures_bind _ _).mpr ((ensures_ofExcept _).mpr ?_)
  cases parsed : Flags.parse arguments with
  | error f => exact unread f parsed
  | ok flags =>
      refine Ensures.env_bind ((ensures_bind _ _).mpr ((ensures_within _ _).mpr ?_))
      refine (guarded flags _ parsed).mono ?_
      rintro es (f | status) now holds
      · exact holds
      · rw [← List.append_nil es] at holds
        exact holds

theorem run_ensures (supported : List Provider) (arguments : List String) (p : Progress) :
    (run supported arguments).Ensures p (Guarded supported arguments p) := by
  have sieved : (run supported arguments).Ensures p fun es r =>
      Sieved supported arguments p es (r.map (·.status)) := by
    refine run_ensures_of_guarded (fun f unread => ?_) fun flags tags parsed => ?_
    · exact .halted (List.forall_mem_nil _) rfl (.flags unread)
    · refine (runGuarded_ensures supported parsed { p with tags }).mono ?_
      exact fun es r now sieved => sieved.retagged p.tags
  exact sieved.mono fun es r now => Sieved.guarded

/-- Whoever answers its calls, a run touches nothing before all checks have passed; one that a check
ends, or the user, touches nothing at all and leaves everything as it was. -/
theorem run_guarded {σ : Type} (h : Handler σ) (s : σ) (supported : List Provider)
    (arguments : List String) (p : Progress) :
    Guarded supported arguments p ((run supported arguments p).history h s)
      ((run supported arguments p).perform h s).1.1 ((run supported arguments p).perform h s).1.2 :=
  (run_ensures supported arguments p).performed h s

end Dismantle.Teardown
