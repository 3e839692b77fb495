import Dismantle.Proofs.Teardown.Course
import Dismantle.Teardown.Run
/-! Every run of a teardown follows a course, whatever its calls give. Tasks that leave the record
alone are told apart from those that delete and save, and from those that end a run. -/
namespace Dismantle.Teardown

/-- The calls that no answer makes a difference for the record. -/
def Call.isPlain : Call → Bool
  | .deleteDirector _ | .deleteStack _ | .deleteCertificate _ | .deleteAwsKeyPair _
  | .terraformDestroy _ | .deleteGcpKeyPair _ | .save _ => false
  | _ => true

theorem Exchange.idle_of_plain {c : Call} (h : c.isPlain = true) (answer : Except Fault c.Answer) :
    Exchange.Idle ⟨c, answer⟩ := by
  cases c <;> simp only [Call.isPlain, Bool.false_eq_true] at h <;> exact ⟨rfl, rfl, rfl⟩

theorem Exchange.idle_deleteDirector {e : Environment} {f : Fault}
    (other : ∀ left cause, f ≠ .directorLeft left cause) :
    Exchange.Idle ⟨.deleteDirector e, .error f⟩ := by
  cases f with
  | directorLeft left cause => exact absurd rfl (other left cause)
  | _ => exact ⟨rfl, rfl, rfl⟩

theorem Exchange.idle_terraformDestroy {d : Destruction} {f : Fault}
    (other : ∀ tfState cause, f ≠ .infrastructureLeft tfState cause) :
    Exchange.Idle ⟨.terraformDestroy d, .error f⟩ := by
  cases f with
  | infrastructureLeft tfState cause => exact absurd rfl (other tfState cause)
  | _ => exact ⟨rfl, rfl, rfl⟩

theorem Course.idle {e : Environment} {es : List Exchange}
    (idle : ∀ x ∈ es, x.Idle ∧ x.call.Due e) : Course (.level e) es (.level e) := by
  induction es with
  | nil => exact .nil _
  | cons x es ih =>
      obtain ⟨hx, due⟩ := idle x List.mem_cons_self
      exact .cons (.idle hx due) (ih fun y member => idle y (List.mem_cons_of_mem x member))

theorem Course.provider {a b : Standing} {es : List Exchange} (h : Course a es b) :
    b.known.provider = a.known.provider := by
  induction h with
  | nil => rfl
  | cons move _ ih => rw [ih, move.known]; rfl

theorem Standing.Ended.error {α β : Type} {more more' : Bool} {r : Except Fault α} {z : Standing}
    (h : z.Ended more r) (g : Fault) : z.Ended more' (.error g : Except Fault β) := by
  cases z with
  | level e => trivial
  | changed k e last => exact h
  | bare k tfState => exact ⟨g, rfl⟩
  | closed k e => exact fun _ => ⟨g, rfl⟩

theorem Standing.Ended.level {α : Type} {a : α} {z : Standing} (h : z.Ended true (.ok a)) :
    z = .level z.memory := by
  cases z with
  | level e => rfl
  | changed k e last => exact h.elim
  | bare k tfState => exact h.elim fun f other => nomatch other
  | closed k e => exact (h rfl).elim fun f other => nomatch other

namespace Task
variable {α β : Type}

/-- A task that leaves progress as it is and whose calls have no bearing on the record. -/
structure Still (t : Task α) (p : Progress) : Prop where
  ensures : t.Ensures p fun es _ p' => p' = p ∧ ∀ x ∈ es, x.Idle ∧ x.call.Due p.env

/-- A task that follows a course; `more` is set where others may follow it. -/
structure Orderly (more : Bool) (t : Task α) (p : Progress) : Prop where
  ensures : t.Ensures p fun es r p' =>
    ∃ z, Course (.level p.env) es z ∧ z.memory = p'.env ∧ z.Ended more r

variable {p : Progress} {more : Bool}

namespace Still

theorem pure (a : α) : (Pure.pure a : Task α).Still p :=
  ⟨(ensures_pure a).mpr ⟨rfl, List.forall_mem_nil _⟩⟩

theorem fail (f : Fault) : (Task.fail f : Task α).Still p :=
  ⟨(ensures_fail f).mpr ⟨rfl, List.forall_mem_nil _⟩⟩

theorem ofExcept (r : Except Fault α) : (Task.ofExcept r).Still p :=
  ⟨(ensures_ofExcept r).mpr ⟨rfl, List.forall_mem_nil _⟩⟩

theorem saved : Task.saved.Still p :=
  ⟨ensures_saved.mpr ⟨rfl, List.forall_mem_nil _⟩⟩

theorem log (level : Log.Level) (logger message : String) :
    (Task.log level logger message).Still p :=
  ⟨(ensures_log level logger message).mpr ⟨rfl, List.forall_mem_nil _⟩⟩

theorem ask {c : Call} (plain : c.isPlain = true) (due : c.Due p.env) : (Task.ask c).Still p := by
  refine ⟨(ensures_ask c).mpr fun answer => ⟨rfl, fun x member => ?_⟩⟩
  rw [List.mem_singleton.mp member]
  exact ⟨Exchange.idle_of_plain plain answer, due⟩

theorem tell {c : Call} (plain : c.isPlain = true) (due : c.Due p.env) :
    (Task.tell c).Still p := by
  refine ⟨(ensures_tell c).mpr fun answer => ⟨rfl, fun x member => ?_⟩⟩
  rw [List.mem_singleton.mp member]
  exact ⟨Exchange.idle_of_plain plain answer, due⟩

theorem attempt {t : Task α} (ht : t.Still p) : t.attempt.Still p :=
  ⟨(ensures_attempt t).mpr ht.ensures⟩

theorem bind {t : Task α} {f : α → Task β} (ht : t.Still p) (hf : ∀ a, (f a).Still p) :
    (t >>= f).Still p := by
  refine ⟨(ensures_bind _ _).mpr (ht.ensures.mono ?_)⟩
  rintro es (g | a) p' ⟨rfl, idle⟩
  · exact ⟨rfl, idle⟩
  · refine (hf a).ensures.mono ?_
    rintro es' r p'' ⟨rfl, idle'⟩
    exact ⟨rfl, fun x member => (List.mem_append.mp member).elim (idle x) (idle' x)⟩

theorem orderly {t : Task α} (ht : t.Still p) : t.Orderly more p := by
  refine ⟨ht.ensures.mono ?_⟩
  rintro es r p' ⟨rfl, idle⟩
  exact ⟨.level p'.env, Course.idle idle, rfl, trivial⟩

theorem orderly_bind {t : Task α} {f : α → Task β} (ht : t.Still p)
    (hf : ∀ a, (f a).Orderly more p) : (t >>= f).Orderly more p := by
  refine ⟨(ensures_bind _ _).mpr (ht.ensures.mono ?_)⟩
  rintro es (g | a) p' ⟨rfl, idle⟩
  · exact ⟨.level p'.env, Course.idle idle, rfl, trivial⟩
  · refine (hf a).ensures.mono ?_
    rintro es' r p'' ⟨z, course, rest⟩
    exact ⟨z, (Course.idle idle).append course, rest⟩

end Still

theorem Ensures.env_bind {f : Environment → Task β}
    {Q : List Exchange → Except Fault β → Progress → Prop} (hf : (f p.env).Ensures p Q) :
    (Task.env >>= f).Ensures p Q := hf

namespace Orderly

theorem env_bind {f : Environment → Task β} (hf : (f p.env).Orderly more p) :
    (Task.env >>= f).Orderly more p := ⟨hf.ensures⟩

theorem bind {t : Task α} {f : α → Task β} (ht : t.Orderly true p)
    (hf : ∀ a p', p'.env.provider = p.env.provider → (f a).Orderly more p') :
    (t >>= f).Orderly more p := by
  refine ⟨(ensures_bind _ _).mpr (ht.ensures.mono ?_)⟩
  rintro es (g | a) p' ⟨z, course, memory, ended⟩
  · exact ⟨z, course, memory, ended.error g⟩
  · rw [ended.level, memory] at course
    refine (hf a p' course.provider).ensures.mono ?_
    rintro es' r p'' ⟨z, course', rest⟩
    exact ⟨z, course.append course', rest⟩

/-- What follows the last task succeeds, calls nothing and leaves the record alone. -/
theorem last_bind {t : Task α} {f : α → Task β} (ht : t.Orderly false p)
    (hf : ∀ a p', (f a).Ensures p' fun es r p'' => es = [] ∧ p''.env = p'.env ∧ ∃ b, r = .ok b) :
    (t >>= f).Orderly false p := by
  refine ⟨(ensures_bind _ _).mpr (ht.ensures.mono ?_)⟩
  rintro es (g | a) p' ⟨z, course, memory, ended⟩
  · exact ⟨z, course, memory, ended.error g⟩
  · refine (hf a p').mono ?_
    rintro es' r p'' ⟨rfl, same, b, rfl⟩
    refine ⟨z, by simpa only [List.append_nil] using course, memory.trans same.symm, ?_⟩
    cases z with
    | bare k tfState => exact ended.elim fun f other => nomatch other
    | closed k e => exact nofun
    | _ => exact ended

theorem within {t : Task α} (tags : Log.Tags)
    (ht : t.Orderly more { p with tags := tags.within p.tags }) :
    (Task.within tags t).Orderly more p :=
  ⟨(ensures_within tags t).mpr ht.ensures⟩

theorem last {t : Task α} (ht : t.Orderly true p) : t.Orderly false p := by
  refine ⟨ht.ensures.mono ?_⟩
  rintro es r p' ⟨z, course, memory, ended⟩
  refine ⟨z, course, memory, ?_⟩
  cases z with
  | closed k e => exact nofun
  | _ => exact ended

end Orderly

variable {a : Standing} {x : Exchange} {k : Environment} {change : Environment → Environment}

theorem ensures_change_checkpoint {last : Bool} (label : String)
    (move : Move a x (.changed k (change p.env) last)) :
    (do Task.change change; Task.checkpoint label : Task Unit).Ensures p fun es r p' =>
      ∃ z, Course a (x :: es) z ∧ z.memory = p'.env ∧ z.Ended (!last) r := by
  simp only [ensures_bind, ensures_change, ensures_checkpoint]
  constructor
  · cases last with
    | false => exact ⟨_, .cons move (.cons (.saved _ _) (.nil _)), rfl, trivial⟩
    | true =>
        exact ⟨_, .cons move (.cons (.savedLast _ _) (.nil _)), rfl, (absurd · Bool.false_ne_true)⟩
  · exact fun g => ⟨_, .cons move (.cons (.unsaved _ _ _ g) (.nil _)), rfl, fun _ => ⟨g, rfl⟩⟩

theorem ensures_change_checkpointThenFail (more : Bool) (label : String) (f : Fault)
    (move : Move a x (.changed k (change p.env) true)) :
    (do Task.change change; Task.checkpointThenFail label f : Task α).Ensures p fun es r p' =>
      (∃ g, r = .error g) ∧ ∃ z, Course a (x :: es) z ∧ z.memory = p'.env ∧ z.Ended more r := by
  simp only [ensures_bind, ensures_change, ensures_checkpointThenFail]
  constructor
  · exact ⟨⟨_, rfl⟩, _, .cons move (.cons (.savedLast _ _) (.nil _)), rfl, fun _ => ⟨f, rfl⟩⟩
  · exact fun g => ⟨⟨_, rfl⟩, _, .cons move (.cons (.unsaved _ _ _ g) (.nil _)), rfl,
      fun _ => ⟨_, rfl⟩⟩

/-- A deletion, the change that it means for the record, and the checkpoint. -/
theorem Orderly.removal {c : Call} (label : String) (due : c.Due p.env)
    (removal : ∀ a, Exchange.Removal ⟨c, .ok a⟩) (idle : ∀ f, Exchange.Idle ⟨c, .error f⟩)
    (changed : ∀ a, change p.env = Exchange.applied ⟨c, .ok a⟩ p.env) :
    (do Task.tell c; Task.change change; Task.checkpoint label : Task Unit).Orderly true p := by
  refine ⟨(ensures_bind _ _).mpr ((ensures_tell c).mpr ?_)⟩
  rintro (f | a)
  · exact ⟨_, .cons (.idle (idle f) due) (.nil _), rfl, trivial⟩
  · have move := Move.removal (removal a) due
    rw [← changed a] at move
    exact ensures_change_checkpoint label move

end Task

open Dismantle.Teardown.Task
variable {p : Progress}

theorem deleteDirector_orderly (p : Progress) : deleteDirector.Orderly true p := by
  refine .env_bind ?_
  split
  case isTrue => exact Still.orderly (.tell rfl trivial)
  case isFalse recorded =>
      have due : (Call.deleteDirector p.env).Due p.env := ⟨rfl, by simpa using recorded⟩
      refine Still.orderly_bind (.tell rfl trivial) fun _ => ?_
      refine Still.orderly_bind (.log _ _ _) fun _ => ?_
      refine ⟨?_⟩
      rw [ensures_bind, ensures_attempt, ensures_tell]
      rintro (f | a)
      · dsimp only [Except.map]
        split
        case h_1 left cause same =>
            cases same
            rw [ensures_bind, ensures_log]
            refine (ensures_change_checkpointThenFail true _ _
              (Move.remnant (.director p.env left cause) due)).mono ?_
            exact fun es r p' h => h.2
        case h_2 g other same =>
            cases same
            have idle := Exchange.idle_deleteDirector (e := p.env) other
            exact ⟨_, .cons (.idle idle due) (.nil _), rfl, trivial⟩
        case h_3 same => cases same
      · exact ensures_change_checkpoint _ (Move.removal (.director p.env) due)

theorem noStack_still (p : Progress) : noStack.Still p := .tell rfl trivial

theorem deleteStack_orderly (p : Progress) (owned : p.env.provider ≠ .gcp) :
    deleteStack.Orderly true p := by
  refine .env_bind ?_
  dsimp only
  split
  case isTrue => exact (noStack_still p).orderly
  case isFalse recorded =>
      have due : (Call.describeStack p.env.stack.name).Due p.env := ⟨owned, rfl, recorded⟩
      refine Still.orderly_bind (.attempt (.ask rfl due)) fun answer => ?_
      split
      case h_1 =>
          refine Still.orderly_bind (.log _ _ _) fun _ => ?_
          exact (noStack_still p).orderly
      case h_2 f _ => exact (Still.fail f).orderly
      case h_3 stack =>
          refine Still.orderly_bind (.tell rfl trivial) fun _ => ?_
          refine Still.orderly_bind (.tell rfl trivial) fun _ => ?_
          exact .removal _ due (fun _ => .stack _) (fun _ => ⟨rfl, rfl, rfl⟩) fun _ => rfl

theorem deleteCertificate_orderly (p : Progress) (owned : p.env.provider ≠ .gcp) :
    deleteCertificate.Orderly true p := by
  refine .env_bind ?_
  split
  case isTrue recorded =>
      refine Still.orderly_bind (.tell rfl trivial) fun _ => ?_
      exact .removal _ ⟨owned, rfl, recorded⟩ (fun _ => .certificate _)
        (fun _ => ⟨rfl, rfl, rfl⟩) fun _ => rfl
  case isFalse => exact (Still.pure ()).orderly

theorem tearDownStack_orderly (p : Progress) (owned : p.env.provider ≠ .gcp) :
    tearDownStack.Orderly true p :=
  (deleteStack_orderly p owned).bind fun _ p' same =>
    deleteCertificate_orderly p' (same ▸ owned)

theorem tearDownAws_orderly (p : Progress) (owned : p.env.provider = .aws) :
    tearDownAws.Orderly true p := by
  have other : p.env.provider ≠ .gcp := by rw [owned]; decide
  refine (tearDownStack_orderly p other).bind fun _ p' same => ?_
  refine Still.orderly_bind (.tell rfl trivial) fun _ => ?_
  refine .env_bind ?_
  exact .removal _ ⟨same.trans owned, rfl⟩ (fun _ => .keyPair _)
    (fun _ => ⟨rfl, rfl, rfl⟩) fun _ => rfl

/-- Destroying the infrastructure leaves what it gave back in memory alone, or fails as an orderly
task does. -/
theorem destroyInfrastructure_ensures (p : Progress) (owned : p.env.provider = .gcp) :
    destroyInfrastructure.Ensures p fun es r p' => match r with
      | .ok _ => ∃ tfState, es = [⟨.terraformDestroy (destruction p.env), .ok tfState⟩] ∧
          p' = { p with env := { p.env with tfState } }
      | .error _ => ∃ z, Course (.level p.env) es z ∧ z.memory = p'.env ∧ z.Ended false r := by
  have due : (Call.terraformDestroy (destruction p.env)).Due p.env := ⟨owned, rfl⟩
  refine Ensures.env_bind ?_
  rw [ensures_bind, ensures_attempt, ensures_ask]
  rintro (f | tfState)
  · dsimp only
    split
    case h_1 tfState cause same =>
        cases same
        rw [ensures_bind, ensures_log]
        refine (ensures_change_checkpointThenFail false _ _
          (Move.remnant (.infrastructure _ tfState cause) due)).mono ?_
        rintro es r p' ⟨⟨g, rfl⟩, h⟩
        exact h
    case h_2 g other same =>
        cases same
        have idle := Exchange.idle_terraformDestroy (d := destruction p.env) other
        exact ⟨_, .cons (.idle idle due) (.nil _), rfl, trivial⟩
    case h_3 same => cases same
  · exact ⟨tfState, rfl, rfl⟩

theorem tearDownGcp_orderly (p : Progress) (owned : p.env.provider = .gcp) :
    tearDownGcp.Orderly false p := by
  refine .env_bind ?_
  refine Still.orderly_bind (.ask rfl trivial) fun outputs => ?_
  refine Still.orderly_bind (.tell rfl trivial) fun _ => ?_
  refine Still.orderly_bind (.tell rfl trivial) fun _ => ?_
  refine ⟨(ensures_bind _ _).mpr ?_⟩
  refine (destroyInfrastructure_ensures p owned).mono ?_
  rintro es (g | _) p' h
  · exact h
  obtain ⟨tfState, rfl, rfl⟩ := h
  have gone := Move.destroyed tfState owned
  refine (ensures_bind _ _).mpr ((ensures_tell _).mpr ?_)
  rintro (f | _)
  · exact ⟨_, .cons gone (.cons (.announced _ _ _) (.nil _)), rfl, f, rfl⟩
  refine (ensures_bind _ _).mpr ((ensures_tell _).mpr ?_)
  rintro (f | _)
  · exact ⟨_, .cons gone (.cons (.announced _ _ _) (.cons (.keyPairLeft _ f owned) (.nil _))), rfl,
      f, rfl⟩
  refine (ensures_change_checkpoint _ (Move.completion tfState owned)).mono ?_
  rintro es r p' ⟨z, course, rest⟩
  exact ⟨z, .cons gone (.cons (.announced _ _ _) course), rest⟩

theorem tearDown_orderly {provider : Provider} (p : Progress) (owned : p.env.provider = provider) :
    (tearDown provider).Orderly false p := by
  cases provider with
  | unset => exact (tearDownStack_orderly p (by rw [owned]; decide)).last
  | aws => exact (tearDownAws_orderly p owned).last
  | gcp => exact tearDownGcp_orderly p owned

theorem skipMissing_still (flags : Flags) (e : Environment) (p : Progress) :
    (skipMissing flags e).Still p := by
  unfold skipMissing
  split
  · exact .bind (.tell rfl trivial) fun _ => .pure true
  · exact .pure false

theorem confirm_still (flags : Flags) (e : Environment) (p : Progress) :
    (confirm flags e).Still p := by
  unfold confirm
  split
  · exact .pure true
  refine .bind (.ask rfl trivial) fun answer => ?_
  split
  · exact .pure true
  · exact .bind (.log _ _ _) fun _ => .bind (.tell rfl trivial) fun _ => .pure false

theorem checkVersion_still (p : Progress) : checkVersion.Still p := by
  refine .bind (.ask rfl trivial) fun found => ?_
  exact .bind (.ofExcept _) fun _ => .log _ _ _

theorem validateCredentials_still (e : Environment) (p : Progress) :
    (validateCredentials e).Still p := by
  unfold validateCredentials
  split
  · exact .tell rfl trivial
  · exact .tell rfl trivial
  · exact .log _ _ _

theorem dismantle_orderly {provider : Provider} (envId : String) (p : Progress)
    (owned : p.env.provider = provider) : (dismantle provider envId).Orderly false p := by
  refine Still.orderly_bind (.log _ _ _) fun _ => ?_
  refine Orderly.bind (.within _ (deleteDirector_orderly _)) fun _ p' same => ?_
  refine .last_bind (.within _ (tearDown_orderly _ (same.trans owned))) fun _ p'' => ?_
  exact ⟨rfl, rfl, (), rfl⟩

theorem runGuarded_orderly (supported : List Provider) (flags : Flags) (p : Progress) :
    (runGuarded supported flags p.env).Orderly false p := by
  refine Still.orderly_bind (skipMissing_still _ _ p) fun skipped => ?_
  split
  · exact (Still.pure _).orderly
  refine Still.orderly_bind (.tell rfl trivial) fun _ => ?_
  refine Still.orderly_bind (confirm_still _ _ p) fun agreed => ?_
  split
  · exact (Still.pure _).orderly
  refine Still.orderly_bind (checkVersion_still p) fun _ => ?_
  refine Still.orderly_bind (validateCredentials_still _ p) fun _ => ?_
  dsimp only
  split
  · rw [fail_bind]
    exact (Still.fail _).orderly
  · exact .last_bind (dismantle_orderly _ p rfl) fun _ p' => ⟨rfl, rfl, _, rfl⟩

theorem run_orderly (supported : List Provider) (arguments : List String) (p : Progress) :
    (run supported arguments).Orderly false p := by
  refine Still.orderly_bind .saved fun before => ?_
  refine Still.orderly_bind (.ofExcept _) fun flags => ?_
  refine .env_bind ?_
  let tags : Log.Tags :=
    { envId := some (.str p.env.envId), provider := some (.str p.env.provider.text) }
  have guarded := runGuarded_orderly supported flags { p with tags := tags.within p.tags }
  exact .last_bind (.within tags guarded) fun status p' => ⟨rfl, rfl, _, rfl⟩

/-- Whoever answers its calls, a run follows a course, and the record that it leaves in memory is
the one at the end of it. -/
theorem run_course {σ : Type} (h : Handler σ) (s : σ) (supported : List Provider)
    (arguments : List String) (p : Progress) :
    ∃ z, Course (.level p.env) ((run supported arguments p).history h s) z ∧
      z.memory = ((run supported arguments p).perform h s).1.2.env ∧
      z.Ended false ((run supported arguments p).perform h s).1.1 :=
  (run_orderly supported arguments p).ensures.performed h s

end Dismantle.Teardown
