import Dismantle.Proofs.Teardown.Convergence
import Dismantle.Proofs.Teardown.Sequence
/-! A stack whose deletion could not be saved. Later runs are told that it is missing and pass over
it, and so it stays on record for good. -/
namespace Dismantle.Teardown

/-- If the call asked after a stack, the answer is that it is missing. -/
def Exchange.misses : Exchange → Bool
  | ⟨.describeStack _, .error (.missingStack _)⟩ => true
  | ⟨.describeStack _, _⟩ => false
  | _ => true

/-- The call asked after a stack that is missing, or it went well. -/
def Exchange.wentWithout (x : Exchange) : Bool :=
  x.misses && (x.call.describes || x.wentWell)

/-- The stack was missing, and all other calls went well. -/
def Verdict.missing : Verdict where
  well x := x.wentWithout = true
  strict c g other well := by
    obtain ⟨-, well⟩ := Bool.and_eq_true_iff.mp well
    rw [other, Bool.false_or] at well
    exact Exchange.not_wentWell c g well
  version _ well := Exchange.judged_of_wentWell (Bool.and_eq_true_iff.mp well).2

/-- The record belongs to the same provider, and says the same about the stack and its load
balancer. -/
structure SameStack (start e : Environment) : Prop where
  provider : e.provider = start.provider
  name : e.stack.name = start.stack.name
  lbType : e.stack.lbType = start.stack.lbType

theorem describe_missed (name : String) (p : Progress) :
    (Task.attempt (Task.ask (.describeStack name))).Succeeds .missing p fun r p' =>
      (∃ other, r = .error (.missingStack other)) ∧ p' = p := by
  refine ⟨(Task.ensures_attempt _).mpr ((Task.ensures_ask _).mpr ?_)⟩
  intro answer well
  have misses := (Bool.and_eq_true_iff.mp (well _ List.mem_cons_self)).1
  cases answer with
  | ok stack => cases misses
  | error g =>
      cases g with
      | missingStack other => exact ⟨_, rfl, ⟨other, rfl⟩, rfl⟩
      | _ => cases misses

theorem missing_leaves : Verdict.missing.Leaves id := by
  intro p
  refine .bind (.env ?_)
  dsimp only
  split
  case isTrue unrecorded => exact .tell rfl rfl
  case isFalse recorded =>
      refine .bind ((describe_missed p.env.stack.name p).mono ?_)
      rintro r p' ⟨⟨other, rfl⟩, rfl⟩
      exact .bind (.log (.tell rfl rfl))

theorem clearedBut_id {e : Environment} (other : e.provider ≠ .gcp) : clearedBut id e =
    { cleared e with
      stack := { (cleared e).stack with name := e.stack.name, lbType := e.stack.lbType } } := by
  simp only [clearedBut, cleared, if_neg other, id, Wording.blank_string]

namespace SameStack
variable {start e : Environment} {x : Exchange}

theorem applied (same : SameStack start e) (untold : x.finding.stack = none) :
    SameStack start (x.applied e) := by
  refine ⟨same.provider, ?_, ?_⟩
  · simp only [Exchange.applied, untold, Option.getD_none, same.name]
  · simp only [Exchange.applied, untold, Option.getD_none, same.lbType]

/-- As long as there is a stack on record, it is the one that there was at the start. -/
theorem lasting (start : Environment) :
    Lasting fun e => e.stack.name = "" ∨ SameStack start e := by
  intro e x held due
  cases told : x.finding.stack with
  | none =>
      rcases held with unnamed | same
      · refine .inl ?_
        simp only [Exchange.applied, told, Option.getD_none, unnamed]
      · exact .inr (same.applied told)
  | some name =>
      refine .inl ?_
      simp only [Exchange.applied, told, Option.getD_some]
      exact x.finding_erases.stack name told

end SameStack

theorem Exchange.telling_stack {x : Exchange} (told : x.finding.stack ≠ none) :
    ∃ name, x = ⟨.deleteStack name, .ok ()⟩ := by
  rcases x.telling with none | removal | remnant | ⟨key, rfl⟩
  · rw [none] at told
    exact absurd rfl told
  · cases removal with
    | stack name => exact ⟨name, rfl⟩
    | _ => exact absurd rfl told
  · cases remnant <;> exact absurd rfl told
  · exact absurd rfl told

/-- A run that misses the stack does not tell of it: to be deleted it must be described before. -/
theorem IsRun.untold {e : Environment} {es : List Exchange} (h : IsRun e es)
    (misses : ∀ x ∈ es, x.misses = true) : ∀ x ∈ es, x.finding.stack = none := by
  intro x member
  by_cases told : x.finding.stack = none
  · exact told
  obtain ⟨name, rfl⟩ := x.telling_stack told
  obtain ⟨before, after, split⟩ := List.append_of_mem member
  obtain ⟨σ, h, s, supported, arguments, p, rfl, rfl⟩ := h
  obtain ⟨-, stack, described, -⟩ := (run_ordered h s supported arguments p).behind split
  have missed := misses _ (split ▸ List.mem_append_left _ described)
  cases missed

theorem Chain.untold {e k : Environment} {runs : List (List Exchange)} (h : Chain e runs k)
    (misses : ∀ x ∈ runs.flatten, x.misses = true) :
    ∀ es ∈ runs, ∀ x ∈ es, x.finding.stack = none := by
  induction h with
  | nil => exact List.forall_mem_nil _
  | cons isRun _ ih =>
      rw [List.flatten_cons, List.forall_mem_append] at misses
      exact List.forall_mem_cons.mpr ⟨isRun.untold misses.1, ih misses.2⟩

/-- Nothing follows a saving that has failed. -/
theorem Move.closes {a b : Standing} {e : Environment} {f : Fault}
    (h : Move a ⟨.save e, .error f⟩ b) : b = .closed a.kept e := by
  cases h with
  | idle idle => cases idle.saving
  | removal removal => cases removal
  | remnant remnant => cases remnant
  | unsaved => rfl

theorem Course.of_closed {k e : Environment} {es : List Exchange} {z : Standing}
    (h : Course (.closed k e) es z) : z = .closed k e := by
  cases h with
  | nil => rfl
  | cons move => cases move

/-- A run whose deletion of the stack was not saved keeps it on record. -/
theorem IsRun.lost {start r : Environment} {before after : List Exchange} {name : String}
    {e : Environment} {f : Fault}
    (h : IsRun r (before ++ ⟨.deleteStack name, .ok ()⟩ :: ⟨.save e, .error f⟩ :: after))
    (held : r.stack.name = "" ∨ SameStack start r) :
    start.stack.name ≠ "" ∧ start.provider ≠ .gcp ∧ SameStack start
      (kept r (before ++ ⟨.deleteStack name, .ok ()⟩ :: ⟨.save e, .error f⟩ :: after)) := by
  obtain ⟨z, course⟩ := h.course
  have saved : z.kept = kept r _ := course.kept
  obtain ⟨a, first, rest⟩ := course.cut
  have known := (first.lasting (SameStack.lasting start) held held).1.1
  cases rest with
  | @cons _ b _ _ _ deletes rest =>
    cases rest with
    | cons unsaved rest =>
      obtain ⟨other, -, named⟩ := deletes.due
      have same : SameStack start a.known := known.resolve_left named
      have stays : z.kept = a.known := by
        obtain rfl := unsaved.closes
        obtain rfl := rest.of_closed
        calc b.kept
            = a.kept := deletes.kept
          _ = a.known := (deletes.level rfl).symm
      rw [← saved, stays]
      exact ⟨same.name ▸ named, same.provider ▸ other, same⟩

def unsaving : Script := { saveFault := fun _ => some (.plain .system "disk full") }

def balanced : Environment := { stack := { name := "stack", lbType := "cf" } }

theorem balanced_lost : ∃ before, Chain balanced
    [before ++ [⟨.deleteStack "stack", .ok ()⟩,
      ⟨.save { balanced with stack := {} }, .error (.plain .system "disk full")⟩]] balanced :=
  ⟨(rehearsed unsaving balanced).take 6, .cons (isRun_rehearsed unsaving balanced) (.nil _)⟩

theorem balanced_missing : ∀ x ∈ rehearsed missing balanced, x.wentWithout = true :=
  List.all_eq_true.mp rfl

theorem balanced_faultless : ∀ x ∈ rehearsed {} balanced, x.wentWell = true :=
  List.all_eq_true.mp rfl

/-- Once deleting the stack has succeeded and was not saved, and the stack is missing from then on,
a run whose other calls go well completes. It ends with the record of a run that has met with no fault
from the start, only that the stack and the type of its load balancer are still there. -/
theorem lost_deletion_stays {start k : Environment} {earlier later : List (List Exchange)}
    {before after : List Exchange} {name : String} {e : Environment} {f : Fault}
    (chain : Chain start (earlier ++
      (before ++ ⟨.deleteStack name, .ok ()⟩ :: ⟨.save e, .error f⟩ :: after) :: later) k)
    (gone : ∀ x ∈ later.flatten, x.misses = true) {supported : List Provider}
    (registered : start.provider ∈ supported) {σ τ : Type} (h : Handler σ) (s : σ) (g : Handler τ)
    (t : τ) {p q : Progress} (next : p.env = k) (first : q.env = start)
    (missing : ∀ x ∈ (run supported ["-n"] p).history h s, x.wentWithout = true)
    (well : ∀ x ∈ (run supported ["-n"] q).history g t, x.wentWell = true) :
    (∃ n, ((run supported ["-n"] p).perform h s).1.1 = .ok ⟨.completed, n⟩) ∧
      let faultless := ((run supported ["-n"] q).perform g t).1.2.env
      ((run supported ["-n"] p).perform h s).1.2.env =
          { faultless with stack := { faultless.stack with
            name := start.stack.name, lbType := start.stack.lbType } } ∧
        start.stack.name ≠ "" ∧ faultless.stack.name = "" ∧ faultless.stack.lbType = "" := by
  subst next first
  have cleared := chain.cleared
  obtain ⟨r, earlier, rest⟩ := chain.cut
  have held := (earlier.lasting (SameStack.lasting q.env) (.inr ⟨rfl, rfl, rfl⟩)).1
  cases rest with
  | cons lost later =>
    obtain ⟨named, other, same⟩ := lost.lost held
    have same : SameStack q.env p.env :=
      (later.lasting_while (fun _ _ untold same _ => same.applied untold) (later.untold gone) same).1
    have registered' : p.env.provider ∈ supported := same.provider ▸ registered
    obtain ⟨outcome, ok, completed, ended⟩ :=
      (run_succeeds_leaving missing_leaves registered').ensures.performed h s missing
    obtain ⟨_, _, _, ended'⟩ := (run_succeeds registered).ensures.performed g t well
    refine ⟨⟨outcome.checkpoints, ?_⟩, ?_, named, ?_⟩
    · rw [ok, ← completed]
    · rw [ended, ended', clearedBut_id (same.provider ▸ other), cleared, same.name, same.lbType]
    · rw [ended']
      simp only [Teardown.cleared, if_neg other, if_neg named, Wording.blank_string, and_self]

/-- The next run completes with the stack on record. -/
theorem lost_deletion_stays_balanced :
    let again := (run Provider.all ["-n"] { env := balanced }).perform (Stage.handler missing)
      { kept := balanced }
    let first := (run Provider.all ["-n"] { env := balanced }).perform (Stage.handler {})
      { kept := balanced }
    (∃ n, again.1.1 = .ok ⟨.completed, n⟩) ∧
      again.1.2.env = { first.1.2.env with stack := { first.1.2.env.stack with
        name := "stack", lbType := "cf" } } := by
  obtain ⟨before, chain⟩ := balanced_lost
  have registered : balanced.provider ∈ Provider.all := by decide
  obtain ⟨completed, same, -⟩ := @lost_deletion_stays _ _ [] [] before _ _ _ _ chain
    (List.forall_mem_nil _) _ registered _ _ (Stage.handler missing) { kept := balanced }
    (Stage.handler {}) { kept := balanced } _ _ rfl rfl balanced_missing balanced_faultless
  exact ⟨completed, same⟩

/-- So it does not end like a run that has met with no fault. -/
theorem lost_deletion_not_cleaned :
    let again := (run Provider.all ["-n"] { env := balanced }).perform (Stage.handler missing)
      { kept := balanced }
    let first := (run Provider.all ["-n"] { env := balanced }).perform (Stage.handler {})
      { kept := balanced }
    (∃ before, Chain balanced
      [before ++ [⟨.deleteStack "stack", .ok ()⟩,
        ⟨.save { balanced with stack := {} }, .error (.plain .system "disk full")⟩]] balanced) ∧
      (∀ x ∈ rehearsed missing balanced, x.wentWithout = true) ∧
      (∀ x ∈ rehearsed {} balanced, x.wentWell = true) ∧
      again.1.2.env ≠ first.1.2.env := by
  refine ⟨balanced_lost, balanced_missing, balanced_faultless, fun same => ?_⟩
  have name : "stack" = "" := congrArg (·.stack.name) same
  exact absurd name (by decide)

end Dismantle.Teardown
