import Dismantle.Proofs.Teardown.Preflight
/-! Runs whose calls go well complete. What going well means for a call is left open as far as the
stack is concerned, which may be deleted or may be missing. -/
namespace Dismantle.Teardown

def Call.describes : Call → Bool
  | .describeStack _ => true
  | _ => false

/-- By what the calls of a run are held to have gone well. None has that failed, unless it was to
describe the stack, and a version of Terraform that was found will do. -/
structure Verdict where
  well : Exchange → Prop
  strict : ∀ (c : Call) (g : Fault), c.describes = false → ¬well ⟨c, .error g⟩
  version : ∀ found, well ⟨.terraformVersion, .ok found⟩ → judgeVersion found = .ok ()

/-- The call succeeded, and the version of Terraform that it may have found will do. -/
def Exchange.wentWell : Exchange → Bool
  | ⟨.terraformVersion, .ok found⟩ => (judgeVersion found).isOk
  | ⟨_, .ok _⟩ => true
  | ⟨_, .error _⟩ => false

theorem Exchange.not_wentWell (c : Call) (g : Fault) : ¬Exchange.wentWell ⟨c, .error g⟩ = true := by
  intro well
  cases c <;> cases well

theorem Exchange.judged_of_wentWell {found : String}
    (well : Exchange.wentWell ⟨.terraformVersion, .ok found⟩ = true) :
    judgeVersion found = .ok () := by
  have well : (judgeVersion found).isOk = true := well
  cases judged : judgeVersion found with
  | ok => rfl
  | error f =>
      rw [judged] at well
      cases well

def Verdict.faultless : Verdict where
  well x := x.wentWell = true
  strict c g _ := Exchange.not_wentWell c g
  version _ := Exchange.judged_of_wentWell

theorem Director.eq_empty {d : Director} (h : d.isEmpty = true) : d = {} := by
  rcases d with ⟨name, username, password, address, certificate, key, credentials, state, manifest⟩
  simp only [Director.isEmpty, Bool.and_eq_true, beq_iff_eq, List.isEmpty_iff] at h
  obtain ⟨⟨⟨⟨⟨⟨⟨⟨rfl, rfl⟩, rfl⟩, rfl⟩, rfl⟩, rfl⟩, rfl⟩, rfl⟩, rfl⟩ := h
  rfl

namespace Task
variable {α β : Type}

/-- If all calls go well, a task that starts from `p` succeeds, with a result and progress as `Q`
says. -/
structure Succeeds (v : Verdict) (t : Task α) (p : Progress) (Q : α → Progress → Prop) : Prop where
  ensures : t.Ensures p fun es r p' => (∀ x ∈ es, v.well x) → ∃ a, r = .ok a ∧ Q a p'

namespace Succeeds
variable {v : Verdict} {p : Progress} {Q : α → Progress → Prop}

theorem mono {t : Task α} {R : α → Progress → Prop} (ht : t.Succeeds v p Q)
    (h : ∀ a p', Q a p' → R a p') : t.Succeeds v p R := by
  refine ⟨ht.ensures.mono ?_⟩
  intro es r p' succeeds well
  obtain ⟨a, rfl, hQ⟩ := succeeds well
  exact ⟨a, rfl, h a p' hQ⟩

theorem bind {t : Task β} {f : β → Task α}
    (ht : t.Succeeds v p fun b p' => (f b).Succeeds v p' Q) : (t >>= f).Succeeds v p Q := by
  refine ⟨(ensures_bind _ _).mpr (ht.ensures.mono ?_)⟩
  rintro es (g | a) p' succeeds
  · intro well
    obtain ⟨a, other, _⟩ := succeeds well
    cases other
  -- If a call of the first task went wrong, nothing is known of where the second one starts, and
  -- nothing has to be.
  by_cases well : ∀ x ∈ es, v.well x
  · obtain ⟨b, same, hf⟩ := succeeds well
    cases same
    refine hf.ensures.mono ?_
    intro es' r p'' succeeds' all
    exact succeeds' fun x member => all x (List.mem_append_right _ member)
  · refine ensures_of_forall _ fun es' r p'' all => ?_
    exact absurd (fun x member => all x (List.mem_append_left _ member)) well

theorem pure {a : α} (h : Q a p) : (Pure.pure a : Task α).Succeeds v p Q :=
  ⟨(ensures_pure a).mpr fun _ => ⟨a, rfl, h⟩⟩

theorem ofExcept {r : Except Fault α} {a : α} (same : r = .ok a) (h : Q a p) :
    (Task.ofExcept r).Succeeds v p Q :=
  ⟨(ensures_ofExcept r).mpr fun _ => ⟨a, same, h⟩⟩

theorem env {Q : Environment → Progress → Prop} (h : Q p.env p) : Task.env.Succeeds v p Q :=
  ⟨ensures_env.mpr fun _ => ⟨p.env, rfl, h⟩⟩

theorem saved {Q : Nat → Progress → Prop} (h : Q p.saved p) : Task.saved.Succeeds v p Q :=
  ⟨ensures_saved.mpr fun _ => ⟨p.saved, rfl, h⟩⟩

theorem log {Q : Unit → Progress → Prop} {level : Log.Level} {logger message : String}
    (h : Q () p) : (Task.log level logger message).Succeeds v p Q :=
  ⟨(ensures_log level logger message).mpr fun _ => ⟨(), rfl, h⟩⟩

theorem change {Q : Unit → Progress → Prop} {f : Environment → Environment}
    (h : Q () { p with env := f p.env }) : (Task.change f).Succeeds v p Q :=
  ⟨(ensures_change f).mpr fun _ => ⟨(), rfl, h⟩⟩

theorem ask {c : Call} {Q : c.Answer → Progress → Prop}
    (strict : ∀ g, ¬v.well ⟨c, .error g⟩) (h : ∀ a, v.well ⟨c, .ok a⟩ → Q a p) :
    (Task.ask c).Succeeds v p Q := by
  refine ⟨(ensures_ask c).mpr ?_⟩
  rintro (g | a) well
  · exact absurd (well _ List.mem_cons_self) (strict g)
  · exact ⟨a, rfl, h a (well _ List.mem_cons_self)⟩

theorem tell {c : Call} {Q : Unit → Progress → Prop} (other : c.describes = false) (h : Q () p) :
    (Task.tell c).Succeeds v p Q := by
  refine ⟨(ensures_tell c).mpr ?_⟩
  rintro (g | a) well
  · exact absurd (well _ List.mem_cons_self) (v.strict c g other)
  · exact ⟨(), rfl, h⟩

theorem attempt {t : Task β} {Q : Except Fault β → Progress → Prop}
    (ht : t.Succeeds v p fun b => Q (.ok b)) : t.attempt.Succeeds v p Q := by
  refine ⟨(ensures_attempt t).mpr (ht.ensures.mono ?_)⟩
  intro es r p' succeeds well
  obtain ⟨b, rfl, hQ⟩ := succeeds well
  exact ⟨.ok b, rfl, hQ⟩

theorem within {t : Task α} {tags : Log.Tags}
    (ht : t.Succeeds v { p with tags := tags.within p.tags } fun a p' =>
      Q a { p' with tags := p.tags }) : (Task.within tags t).Succeeds v p Q :=
  ⟨(ensures_within tags t).mpr ht.ensures⟩

theorem checkpoint {Q : Unit → Progress → Prop} {label : String}
    (h : Q () { p with saved := p.saved + 1 }) : (Task.checkpoint label).Succeeds v p Q := by
  refine ⟨(ensures_checkpoint label).mpr ⟨fun _ => ⟨(), rfl, h⟩, fun g well => ?_⟩⟩
  exact absurd (well _ List.mem_cons_self) (v.strict _ g rfl)

end Succeeds
end Task

open Dismantle.Teardown.Task
variable {v : Verdict} {left : Stack → Stack}

theorem deleteDirector_succeeds (v : Verdict) (p : Progress) :
    deleteDirector.Succeeds v p fun _ p' => p'.env = { p.env with director := {} } := by
  refine .bind (.env ?_)
  split
  case isTrue unrecorded =>
      refine .tell rfl ?_
      rw [← Director.eq_empty unrecorded]
  case isFalse =>
      refine .bind (.tell rfl (.bind (.log (.bind (.attempt (.tell rfl ?_))))))
      exact .bind (.change (.checkpoint rfl))

/-- What deleting the stack makes of what is recorded of it. -/
def Verdict.Leaves (v : Verdict) (left : Stack → Stack) : Prop :=
  ∀ p, deleteStack.Succeeds v p fun _ p' => p'.env = { p.env with stack := left p.env.stack }

/-- The type of the load balancer is cleared only if there is a stack to delete. -/
def withoutStack (s : Stack) : Stack :=
  { s with name := "", lbType := if s.name = "" then s.lbType else "" }

theorem withoutStack_of_unnamed {s : Stack} (h : s.name = "") : withoutStack s = s := by
  rcases s with ⟨name, lbType, certificate⟩
  cases h
  rfl

theorem faultless_leaves : Verdict.faultless.Leaves withoutStack := by
  intro p
  refine .bind (.env ?_)
  dsimp only
  split
  case isTrue unrecorded =>
      refine .tell rfl ?_
      rw [withoutStack_of_unnamed unrecorded]
  case isFalse recorded =>
      refine .bind (.attempt (.ask (Exchange.not_wentWell _) fun stack _ => ?_))
      refine .bind (.tell rfl (.bind (.tell rfl (.bind (.tell rfl ?_)))))
      refine .bind (.change (.checkpoint ?_))
      simp only [withoutStack, if_neg recorded]

theorem deleteCertificate_succeeds (v : Verdict) (p : Progress) :
    deleteCertificate.Succeeds v p fun _ p' =>
      p'.env = { p.env with stack := { p.env.stack with certificateName := "" } } := by
  refine .bind (.env ?_)
  split
  case isTrue =>
      refine .bind (.tell rfl (.bind (.tell rfl ?_)))
      exact .bind (.change (.checkpoint rfl))
  case isFalse unrecorded =>
      refine .pure ?_
      rw [← Classical.not_not.mp unrecorded]

theorem tearDownStack_succeeds (leaves : v.Leaves left) (p : Progress) :
    tearDownStack.Succeeds v p fun _ p' =>
      p'.env = { p.env with stack := { left p.env.stack with certificateName := "" } } := by
  refine .bind ((leaves p).mono fun _ p' same => ?_)
  refine (deleteCertificate_succeeds v p').mono fun _ p'' same' => ?_
  rw [same', same]

theorem tearDownAws_succeeds (leaves : v.Leaves left) (p : Progress) :
    tearDownAws.Succeeds v p fun _ p' => p'.env =
      { p.env with
        stack := { left p.env.stack with certificateName := "" }
        keyPair := {} } := by
  refine .bind ((tearDownStack_succeeds leaves p).mono fun _ p' same => ?_)
  refine .bind (.tell rfl (.bind (.env (.bind (.tell rfl ?_)))))
  refine .bind (.change (.checkpoint ?_))
  dsimp only
  rw [same]

theorem destroyInfrastructure_succeeds (v : Verdict) (p : Progress) :
    destroyInfrastructure.Succeeds v p fun _ p' =>
      ∃ tfState, p'.env = { p.env with tfState } := by
  refine .bind (.env (.bind (.attempt (.ask (v.strict _ · rfl) fun tfState _ => ?_))))
  exact .change ⟨tfState, rfl⟩

theorem tearDownGcp_succeeds (v : Verdict) (p : Progress) :
    tearDownGcp.Succeeds v p fun _ p' => p'.env = { p.env with keyPair := {}, tfState := "" } := by
  refine .bind (.env (.bind (.ask (v.strict _ · rfl) fun outputs _ => ?_)))
  refine .bind (.tell rfl (.bind (.tell rfl ?_)))
  refine .bind ((destroyInfrastructure_succeeds v p).mono fun _ p' gone => ?_)
  obtain ⟨tfState, same⟩ := gone
  refine .bind (.tell rfl (.bind (.tell rfl (.bind (.change (.checkpoint ?_))))))
  dsimp only
  rw [same]

/-- The record without anything that its provider owns, except for what is left of its stack. -/
def clearedBut (left : Stack → Stack) (e : Environment) : Environment :=
  { e with
    director := {}
    stack := if e.provider = .gcp then e.stack else { left e.stack with certificateName := "" }
    keyPair := if e.provider = .unset then e.keyPair else {}
    tfState := if e.provider = .gcp then "" else e.tfState }

/-- The director apart, everything that the provider owns is cleared. -/
theorem tearDown_succeeds (leaves : v.Leaves left) {provider : Provider} (p : Progress)
    (owned : p.env.provider = provider) : (tearDown provider).Succeeds v p fun _ p' =>
      p'.env = { clearedBut left p.env with director := p.env.director } := by
  cases provider with
  | unset =>
      refine (tearDownStack_succeeds leaves p).mono fun _ p' same => ?_
      simp only [same, clearedBut, owned, if_true, reduceCtorEq, if_false]
  | aws =>
      refine (tearDownAws_succeeds leaves p).mono fun _ p' same => ?_
      simp only [same, clearedBut, owned, reduceCtorEq, if_false]
  | gcp =>
      refine (tearDownGcp_succeeds v p).mono fun _ p' same => ?_
      simp only [same, clearedBut, owned, if_true, reduceCtorEq, if_false]

theorem skipMissing_succeeds {flags : Flags} (v : Verdict) (off : flags.skipIfMissing = false)
    (e : Environment) (p : Progress) :
    (skipMissing flags e).Succeeds v p fun skipped p' => skipped = false ∧ p' = p := by
  unfold skipMissing
  rw [off, Bool.false_and, if_neg Bool.false_ne_true]
  exact .pure ⟨rfl, rfl⟩

theorem confirm_succeeds {flags : Flags} (v : Verdict) (on : flags.noConfirm = true)
    (e : Environment) (p : Progress) :
    (confirm flags e).Succeeds v p fun agreed p' => agreed = true ∧ p' = p := by
  unfold confirm
  rw [if_pos on]
  exact .pure ⟨rfl, rfl⟩

theorem checkVersion_succeeds (v : Verdict) (p : Progress) :
    checkVersion.Succeeds v p fun _ p' => p' = p := by
  refine .bind (.ask (v.strict _ · rfl) fun found well => ?_)
  exact .bind (.ofExcept (v.version found well) (.log rfl))

theorem validateCredentials_succeeds (v : Verdict) (e : Environment) (p : Progress) :
    (validateCredentials e).Succeeds v p fun _ p' => p' = p := by
  unfold validateCredentials
  split
  · exact .tell rfl rfl
  · exact .tell rfl rfl
  · exact .log rfl

theorem dismantle_succeeds (leaves : v.Leaves left) {provider : Provider} (envId : String)
    (p : Progress) (owned : p.env.provider = provider) :
    (dismantle provider envId).Succeeds v p fun _ p' => p'.env = clearedBut left p.env := by
  refine .bind (.log (.bind (.within ?_)))
  refine (deleteDirector_succeeds v _).mono fun _ p' same => ?_
  refine .bind (.within ?_)
  have owned' : p'.env.provider = provider := by rw [same, owned]
  refine .mono (tearDown_succeeds leaves _ owned') fun _ p'' cleared => ?_
  refine .log ?_
  dsimp only at cleared ⊢
  rw [cleared, same]
  rfl

theorem runGuarded_succeeds (leaves : v.Leaves left) {supported : List Provider} {p : Progress}
    (flags : Flags) (off : flags.skipIfMissing = false) (on : flags.noConfirm = true)
    (registered : p.env.provider ∈ supported) :
    (runGuarded supported flags p.env).Succeeds v p fun status p' =>
      status = .completed ∧ p'.env = clearedBut left p.env := by
  refine .bind ((skipMissing_succeeds v off p.env p).mono ?_)
  rintro skipped p' ⟨rfl, rfl⟩
  refine .bind (.tell rfl (.bind ((confirm_succeeds v on p'.env p').mono ?_)))
  rintro agreed p ⟨rfl, rfl⟩
  refine .bind ((checkVersion_succeeds v p).mono ?_)
  rintro _ p' rfl
  refine .bind ((validateCredentials_succeeds v p'.env p').mono ?_)
  rintro _ p rfl
  dsimp only
  split
  case isTrue unsupported => simp [registered] at unsupported
  case isFalse =>
      refine .bind ((dismantle_succeeds leaves _ p rfl).mono fun _ p' same => ?_)
      exact .pure ⟨rfl, same⟩

/-- A run without confirmation completes if its calls go well. -/
theorem run_succeeds_leaving (leaves : v.Leaves left) {supported : List Provider} {p : Progress}
    (registered : p.env.provider ∈ supported) :
    (run supported ["-n"]).Succeeds v p fun outcome p' =>
      outcome.status = .completed ∧ p'.env = clearedBut left p.env := by
  refine .bind (.saved (.bind (.ofExcept (a := { noConfirm := true }) rfl ?_)))
  refine .bind (.env (.bind (.within ?_)))
  let tags : Log.Tags :=
    { envId := some (.str p.env.envId), provider := some (.str p.env.provider.text) }
  have guarded := runGuarded_succeeds (p := { p with tags := tags.within p.tags }) leaves
    { noConfirm := true } rfl rfl registered
  refine guarded.mono ?_
  rintro status p' ⟨completed, cleared⟩
  exact .bind (.saved (.pure ⟨completed, cleared⟩))

end Dismantle.Teardown
