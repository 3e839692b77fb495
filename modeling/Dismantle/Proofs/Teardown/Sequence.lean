import Dismantle.Proofs.Teardown.Preflight
/-! The order of a run's calls: what each deletion waits for. -/
namespace Dismantle.Teardown

/-- There is no stack to delete, or its deletion has been saved. -/
inductive StackDone (start : Environment) : List Exchange → Prop where
  | unnamed {past : List Exchange} : start.stack.name = "" → StackDone start past
  | missing {past : List Exchange} (other : String) :
      ⟨.describeStack start.stack.name, .error (.missingStack other)⟩ ∈ past → StackDone start past
  | deleted (before after : List Exchange) (e : Environment) : e.stack.name = "" →
      StackDone start
        (before ++ ⟨.deleteStack start.stack.name, .ok ()⟩ :: ⟨.save e, .ok ()⟩ :: after)

/-- There is no certificate to delete, or its deletion has been saved. -/
inductive CertificateDone (start : Environment) : List Exchange → Prop where
  | unnamed {past : List Exchange} : start.stack.certificateName = "" → CertificateDone start past
  | deleted (before after : List Exchange) (e : Environment) : e.stack.certificateName = "" →
      CertificateDone start (before ++
        ⟨.deleteCertificate start.stack.certificateName, .ok ()⟩ :: ⟨.save e, .ok ()⟩ :: after)

/-- What a call waits for, in a run that starts with a record. -/
def Call.Behind (start : Environment) (past : List Exchange) : Call → Prop
  | .deleteStack name => name = start.stack.name ∧ ∃ stack,
      ⟨.describeStack start.stack.name, .ok stack⟩ ∈ past ∧
        ⟨.checkVpc (StackDescription.vpcId stack), .ok ()⟩ ∈ past
  | .deleteCertificate _ => StackDone start past
  | .deleteAwsKeyPair _ => StackDone start past ∧ CertificateDone start past
  | .terraformDestroy _ => ∃ e outputs, e.tfState = start.tfState ∧
      ⟨.terraformOutputs e, .ok outputs⟩ ∈ past ∧
        ⟨.checkNetwork (Outputs.networkName outputs), .ok ()⟩ ∈ past
  | .deleteGcpKeyPair _ => ∃ d tfState, ⟨.terraformDestroy d, .ok tfState⟩ ∈ past
  | _ => True

/-- Calls that each come behind what they wait for. -/
inductive Ordered (start : Environment) : List Exchange → List Exchange → Prop where
  | nil (past : List Exchange) : Ordered start past []
  | cons {past es : List Exchange} {x : Exchange} : x.call.Behind start past →
      Ordered start (past ++ [x]) es → Ordered start past (x :: es)

variable {start : Environment} {past es es' : List Exchange}

theorem StackDone.append (h : StackDone start past) (es : List Exchange) :
    StackDone start (past ++ es) := by
  cases h with
  | unnamed none => exact .unnamed none
  | missing other member => exact .missing other (List.mem_append_left es member)
  | deleted before after e none =>
      rw [List.append_assoc]
      exact .deleted before (after ++ es) e none

theorem CertificateDone.append (h : CertificateDone start past) (es : List Exchange) :
    CertificateDone start (past ++ es) := by
  cases h with
  | unnamed none => exact .unnamed none
  | deleted before after e none =>
      rw [List.append_assoc]
      exact .deleted before (after ++ es) e none

theorem Ordered.append (h : Ordered start past es) (h' : Ordered start (past ++ es) es') :
    Ordered start past (es ++ es') := by
  induction h with
  | nil => rwa [List.append_nil] at h'
  | cons behind _ ih =>
      rw [List.append_cons] at h'
      exact .cons behind (ih h')

theorem Ordered.behind (h : Ordered start past es) {before after : List Exchange} {x : Exchange}
    (split : es = before ++ x :: after) : x.call.Behind start (past ++ before) := by
  induction h generalizing before with
  | nil => simp at split
  | @cons past es y behind _ ih =>
      cases before with
      | nil =>
          cases split
          rwa [List.append_nil]
      | cons z before =>
          cases split
          rw [List.append_cons]
          exact ih rfl

theorem Call.behind_of_untouching {c : Call} (h : c.touches = false) : c.Behind start past := by
  cases c with
  | deleteStack | deleteCertificate | deleteAwsKeyPair | terraformDestroy | deleteGcpKeyPair => cases h
  | _ => trivial

namespace Task
variable {α β : Type}

/-- Behind a past, a task makes calls in order; if it succeeds the whole past, the result and the
progress are as `Q` says. -/
structure Heeds (start : Environment) (t : Task α) (past : List Exchange) (p : Progress)
    (Q : List Exchange → α → Progress → Prop) : Prop where
  ensures : t.Ensures p fun es r p' =>
    Ordered start past es ∧ ∀ a, r = .ok a → Q (past ++ es) a p'

namespace Heeds
variable {p : Progress} {Q : List Exchange → α → Progress → Prop}

theorem mono {t : Task α} {R : List Exchange → α → Progress → Prop} (ht : t.Heeds start past p R)
    (h : ∀ past a p', R past a p' → Q past a p') : t.Heeds start past p Q := by
  refine ⟨ht.ensures.mono ?_⟩
  rintro es r p' ⟨ordered, good⟩
  exact ⟨ordered, fun a same => h _ a p' (good a same)⟩

theorem bind {t : Task β} {f : β → Task α} {R : List Exchange → β → Progress → Prop}
    (ht : t.Heeds start past p R)
    (hf : ∀ past b p', R past b p' → (f b).Heeds start past p' Q) :
    (t >>= f).Heeds start past p Q := by
  refine ⟨(ensures_bind _ _).mpr (ht.ensures.mono ?_)⟩
  rintro es (g | b) p' ⟨ordered, good⟩
  · exact ⟨ordered, nofun⟩
  · refine (hf _ b p' (good b rfl)).ensures.mono ?_
    rintro es' r p'' ⟨ordered', good'⟩
    refine ⟨ordered.append ordered', fun a same => ?_⟩
    rw [← List.append_assoc]
    exact good' a same

theorem pure {a : α} (h : Q past a p) : (Pure.pure a : Task α).Heeds start past p Q := by
  refine ⟨(ensures_pure a).mpr ⟨.nil past, ?_⟩⟩
  rintro b ⟨⟩
  rwa [List.append_nil]

theorem fail (f : Fault) : (Task.fail f : Task α).Heeds start past p Q :=
  ⟨(ensures_fail f).mpr ⟨.nil past, nofun⟩⟩

theorem log {level : Log.Level} {logger message : String} :
    (Task.log level logger message).Heeds start past p fun past' _ p' => past' = past ∧ p' = p :=
  ⟨(ensures_log level logger message).mpr ⟨.nil past, fun _ _ => ⟨List.append_nil past, rfl⟩⟩⟩

theorem env_bind {f : Environment → Task α} (hf : (f p.env).Heeds start past p Q) :
    (Task.env >>= f).Heeds start past p Q := ⟨hf.ensures⟩

theorem change_bind {f : Unit → Task α} {change : Environment → Environment}
    (hf : (f ()).Heeds start past { p with env := change p.env } Q) :
    (Task.change change >>= f).Heeds start past p Q := ⟨hf.ensures⟩

theorem ask {c : Call} (behind : c.Behind start past) :
    (Task.ask c).Heeds start past p fun past' a p' => past' = past ++ [⟨c, .ok a⟩] ∧ p' = p := by
  refine ⟨(ensures_ask c).mpr fun answer => ⟨.cons behind (.nil _), ?_⟩⟩
  rintro a rfl
  exact ⟨rfl, rfl⟩

theorem attempt_ask {c : Call} (behind : c.Behind start past) :
    (Task.attempt (Task.ask c)).Heeds start past p fun past' answer p' =>
      past' = past ++ [⟨c, answer⟩] ∧ p' = p := by
  refine ⟨(ensures_attempt _).mpr ((ensures_ask c).mpr fun answer => ⟨.cons behind (.nil _), ?_⟩)⟩
  rintro answer ⟨⟩
  exact ⟨rfl, rfl⟩

theorem tell {c : Call} (behind : c.Behind start past) :
    (Task.tell c).Heeds start past p fun past' _ p' =>
      ∃ a, past' = past ++ [⟨c, .ok a⟩] ∧ p' = p := by
  refine ⟨(ensures_tell c).mpr fun answer => ⟨.cons behind (.nil _), fun _ same => ?_⟩⟩
  cases answer with
  | error f => cases same
  | ok a => exact ⟨a, rfl, rfl⟩

theorem attempt {t : Task β} {R : List Exchange → β → Progress → Prop}
    (ht : t.Heeds start past p R) :
    t.attempt.Heeds start past p fun past' r p' => ∀ b, r = .ok b → R past' b p' := by
  refine ⟨(ensures_attempt t).mpr (ht.ensures.mono ?_)⟩
  rintro es r p' ⟨ordered, good⟩
  refine ⟨ordered, ?_⟩
  rintro r' ⟨⟩
  exact good

theorem within {t : Task α} (tags : Log.Tags)
    (ht : t.Heeds start past { p with tags := tags.within p.tags } fun past' a p' =>
      Q past' a { p' with tags := p.tags }) : (Task.within tags t).Heeds start past p Q :=
  ⟨(ensures_within tags t).mpr ht.ensures⟩

theorem checkpoint {label : String} :
    (Task.checkpoint label).Heeds start past p fun past' _ p' =>
      past' = past ++ [⟨.save p.env, .ok ()⟩] ∧ p'.env = p.env := by
  refine ⟨(ensures_checkpoint label).mpr ⟨⟨.cons trivial (.nil _), fun _ _ => ⟨rfl, rfl⟩⟩, ?_⟩⟩
  exact fun g => ⟨.cons trivial (.nil _), nofun⟩

theorem checkpointThenFail {label : String} {f : Fault} :
    (Task.checkpointThenFail label f : Task α).Heeds start past p Q := by
  refine ⟨(ensures_checkpointThenFail label f).mpr ⟨⟨.cons trivial (.nil _), nofun⟩, ?_⟩⟩
  exact fun g => ⟨.cons trivial (.nil _), nofun⟩

end Heeds

theorem Checks.heeds {t : Task α} {p : Progress} {R : List Exchange → Except Fault α → Prop}
    (ht : t.Checks p R) : t.Heeds start past p fun _ _ p' => p' = p := by
  refine ⟨ht.ensures.mono ?_⟩
  rintro es r p' ⟨untouching, same, -⟩
  refine ⟨?_, fun _ _ => same⟩
  induction es generalizing past with
  | nil => exact .nil past
  | cons x es ih =>
      obtain ⟨first, rest⟩ := List.forall_mem_cons.mp untouching
      exact .cons (Call.behind_of_untouching first) (ih rest)

end Task

open Dismantle.Teardown.Task
variable {p : Progress}

theorem deleteDirector_heeds (past : List Exchange) (p : Progress) :
    deleteDirector.Heeds start past p fun _ _ p' => ∃ director, p'.env = { p.env with director } := by
  refine .env_bind ?_
  split
  case isTrue =>
      refine .mono (.tell trivial) ?_
      rintro past' _ p' ⟨_, -, rfl⟩
      exact ⟨p'.env.director, rfl⟩
  case isFalse =>
      refine .bind (.tell trivial) ?_
      rintro past _ p' ⟨_, rfl, rfl⟩
      refine .bind .log ?_
      rintro past _ p' ⟨rfl, rfl⟩
      refine .bind (.attempt (.tell trivial)) ?_
      intro past answer p'' told
      split
      case h_1 => exact .bind .log fun _ _ _ _ => .change_bind .checkpointThenFail
      case h_2 => exact .fail _
      case h_3 =>
          obtain ⟨_, -, rfl⟩ := told () rfl
          refine .change_bind (.mono .checkpoint ?_)
          rintro past' _ p' ⟨-, same⟩
          exact ⟨{}, same⟩

theorem deleteStack_heeds (past : List Exchange) (p : Progress) (same : p.env.stack = start.stack) :
    deleteStack.Heeds start past p fun past' _ p' =>
      StackDone start past' ∧ p'.env.stack.certificateName = start.stack.certificateName := by
  refine .env_bind ?_
  dsimp only
  split
  case isTrue none =>
      rw [same] at none
      refine .mono (.tell trivial) ?_
      rintro past' _ p' ⟨_, -, rfl⟩
      exact ⟨.unnamed none, by rw [same]⟩
  case isFalse recorded =>
  rw [same]
  refine .bind (.attempt_ask trivial) ?_
  rintro past answer p' ⟨rfl, rfl⟩
  split
  case h_1 other =>
      refine .bind .log ?_
      rintro past' _ p' ⟨rfl, rfl⟩
      refine .mono (.tell trivial) ?_
      rintro past' _ p' ⟨_, rfl, rfl⟩
      refine ⟨.missing other ?_, by rw [same]⟩
      simp
  case h_2 => exact .fail _
  case h_3 stack =>
      refine .bind (.tell trivial) ?_
      rintro past' _ p' ⟨⟨⟩, rfl, rfl⟩
      refine .bind (.tell trivial) ?_
      rintro past' _ p' ⟨_, rfl, rfl⟩
      refine .bind (.tell ⟨rfl, stack, by simp, by simp⟩) ?_
      rintro past' _ p' ⟨⟨⟩, rfl, rfl⟩
      refine .change_bind (.mono .checkpoint ?_)
      rintro past' _ p' ⟨rfl, kept⟩
      refine ⟨?_, by rw [kept, same]⟩
      rw [List.append_assoc _ [_] [_]]
      exact .deleted _ [] _ rfl

theorem deleteCertificate_heeds (past : List Exchange) (p : Progress) (done : StackDone start past)
    (same : p.env.stack.certificateName = start.stack.certificateName) :
    deleteCertificate.Heeds start past p fun past' _ _ =>
      StackDone start past' ∧ CertificateDone start past' := by
  refine .env_bind ?_
  split
  case isTrue =>
      refine .bind (.tell trivial) ?_
      rintro past' _ p' ⟨_, rfl, rfl⟩
      have done := done.append [⟨.step "deleting certificate", .ok ()⟩]
      refine .bind (.tell done) ?_
      rintro past' _ p' ⟨⟨⟩, rfl, rfl⟩
      refine .change_bind (.mono .checkpoint ?_)
      rintro past' _ p' ⟨rfl, kept⟩
      rw [List.append_assoc _ [_] [_]]
      refine ⟨done.append _, ?_⟩
      rw [same]
      exact .deleted _ [] _ rfl
  case isFalse none =>
      refine .pure ⟨done, .unnamed ?_⟩
      rw [← same]
      exact Decidable.not_not.mp none

theorem tearDownStack_heeds (past : List Exchange) (p : Progress)
    (same : p.env.stack = start.stack) :
    tearDownStack.Heeds start past p fun past' _ _ =>
      StackDone start past' ∧ CertificateDone start past' := by
  refine .bind (deleteStack_heeds past p same) ?_
  rintro past' _ p' ⟨done, same⟩
  exact deleteCertificate_heeds past' p' done same

theorem tearDownAws_heeds (past : List Exchange) (p : Progress) (same : p.env.stack = start.stack) :
    tearDownAws.Heeds start past p fun _ _ _ => True := by
  refine .bind (tearDownStack_heeds past p same) ?_
  rintro past' _ p' ⟨stack, certificate⟩
  refine .bind (.tell trivial) ?_
  rintro past' _ p' ⟨_, rfl, rfl⟩
  refine .env_bind (.bind (.tell ⟨stack.append _, certificate.append _⟩) ?_)
  rintro past' _ p'' ⟨_, rfl, rfl⟩
  exact .change_bind (.mono .checkpoint fun _ _ _ _ => trivial)

theorem destroyInfrastructure_heeds (past : List Exchange) (p : Progress)
    (clear : (Call.terraformDestroy (destruction p.env)).Behind start past) :
    destroyInfrastructure.Heeds start past p fun past' _ _ =>
      ∃ d tfState, ⟨.terraformDestroy d, .ok tfState⟩ ∈ past' := by
  refine .env_bind (.bind (.attempt_ask clear) ?_)
  rintro past' answer p' ⟨rfl, rfl⟩
  split
  case h_1 => exact .bind .log fun _ _ _ _ => .change_bind .checkpointThenFail
  case h_2 => exact .fail _
  case h_3 tfState =>
      refine ⟨(ensures_change _).mpr ⟨.nil _, fun _ _ => ⟨_, tfState, ?_⟩⟩⟩
      simp

theorem tearDownGcp_heeds (past : List Exchange) (p : Progress) (same : p.env.tfState = start.tfState) :
    tearDownGcp.Heeds start past p fun _ _ _ => True := by
  refine .env_bind (.bind (.ask trivial) ?_)
  rintro past' outputs p' ⟨rfl, rfl⟩
  refine .bind (.tell trivial) ?_
  rintro past' _ p' ⟨⟨⟩, rfl, rfl⟩
  refine .bind (.tell trivial) ?_
  rintro past' _ p' ⟨_, rfl, rfl⟩
  refine .bind (destroyInfrastructure_heeds _ p' ⟨_, outputs, same, by simp, by simp⟩) ?_
  rintro past' _ p'' ⟨d, tfState, destroyed⟩
  refine .bind (.tell trivial) ?_
  rintro past' _ p' ⟨_, rfl, rfl⟩
  refine .bind (.tell ⟨d, tfState, List.mem_append_left _ destroyed⟩) ?_
  rintro past' _ p' ⟨_, rfl, rfl⟩
  exact .change_bind (.mono .checkpoint fun _ _ _ _ => trivial)

theorem tearDown_heeds (provider : Provider) (past : List Exchange) (p : Progress)
    (stack : p.env.stack = start.stack) (tfState : p.env.tfState = start.tfState) :
    (tearDown provider).Heeds start past p fun _ _ _ => True := by
  cases provider with
  | unset => exact .mono (tearDownStack_heeds past p stack) fun _ _ _ _ => trivial
  | aws => exact tearDownAws_heeds past p stack
  | gcp => exact tearDownGcp_heeds past p tfState

theorem dismantle_heeds (provider : Provider) (envId : String) (past : List Exchange) (p : Progress)
    (same : p.env = start) : (dismantle provider envId).Heeds start past p fun _ _ _ => True := by
  refine .bind .log ?_
  rintro past' _ p' ⟨rfl, rfl⟩
  have director : (Task.within { step := some (.str "director") } deleteDirector).Heeds start past' p'
      fun _ _ p'' => ∃ director, p''.env = { p'.env with director } :=
    .within _ (deleteDirector_heeds past' _)
  refine .bind director ?_
  rintro past' _ p'' ⟨director, kept⟩
  have stack : p''.env.stack = start.stack := by rw [kept, same]
  have tfState : p''.env.tfState = start.tfState := by rw [kept, same]
  have tornDown : (Task.within { step := some (.str (stepName provider)) }
      (tearDown provider)).Heeds start past' p'' fun _ _ _ => True :=
    .within _ (tearDown_heeds provider past' { p'' with tags := _ } stack tfState)
  exact .bind tornDown fun _ _ _ _ => .mono .log fun _ _ _ _ => trivial

theorem runGuarded_heeds (supported : List Provider) (flags : Flags) (p : Progress)
    (same : p.env = start) :
    (runGuarded supported flags p.env).Heeds start [] p fun _ _ _ => True := by
  refine .bind (skipMissing_checks flags p.env p).heeds ?_
  rintro past skipped p' rfl
  split
  · exact .pure trivial
  refine .bind (.tell trivial) ?_
  rintro past _ p' ⟨_, rfl, rfl⟩
  refine .bind (confirm_checks flags p'.env p').heeds ?_
  rintro past agreed p' rfl
  split
  · exact .pure trivial
  refine .bind (checkVersion_checks p').heeds ?_
  rintro past _ p' rfl
  refine .bind (validateCredentials_checks p'.env p').heeds ?_
  rintro past _ p' rfl
  dsimp only
  split
  · rw [fail_bind]
    exact .fail _
  · exact .bind (dismantle_heeds _ _ past p' same) fun _ _ _ _ => .pure trivial

/-- Whoever answers the calls of a run, each call comes behind what it waits for. -/
theorem run_ordered {σ : Type} (h : Handler σ) (s : σ) (supported : List Provider)
    (arguments : List String) (p : Progress) :
    Ordered p.env [] ((run supported arguments p).history h s) := by
  have guarded : (run supported arguments).Ensures p fun es _ _ => Ordered p.env [] es := by
    refine run_ensures_of_guarded (Q := fun es _ _ => Ordered p.env [] es) (fun _ _ => .nil _)
      fun flags tags _ => ?_
    exact (runGuarded_heeds supported flags { p with tags } rfl).ensures.mono fun _ _ _ => And.left
  exact guarded.performed h s

end Dismantle.Teardown
