import Dismantle.Proofs.Teardown.Episode
/-! What is kept of a director whose deletion has failed. It is told, and saved, unless something is in
the way: a fault around the program, or one in the files that it left. -/
namespace Dismantle.Teardown

/-- The calls that deleting the director of a record makes. -/
inductive Directing (e : Environment) : List Exchange → Prop
  | absent (text : String) (answer : Except Fault Unit) : Directing e [⟨.note text, answer⟩]
  | unannounced (text : String) (f : Fault) : Directing e [⟨.step text, .error f⟩]
  | failed (text : String) (f : Fault) (bare : ∀ left cause, f ≠ .directorLeft left cause) :
      Directing e [⟨.step text, .ok ()⟩, ⟨.deleteDirector e, .error f⟩]
  | partly (text : String) (left : Environment) (cause : Fault) (saved : Except Fault Unit) :
      Directing e [⟨.step text, .ok ()⟩, ⟨.deleteDirector e, .error (.directorLeft left cause)⟩,
        ⟨.save { e with director := left.director }, saved⟩]
  | deleted (text : String) (saved : Except Fault Unit) :
      Directing e [⟨.step text, .ok ()⟩, ⟨.deleteDirector e, .ok ()⟩,
        ⟨.save { e with director := {} }, saved⟩]

theorem deleteDirector_directs (p : Progress) :
    deleteDirector.Ensures p fun es _ _ => Directing p.env es := by
  unfold deleteDirector
  simp only [Task.ensures_bind, Task.ensures_env]
  split
  case isTrue =>
    simp only [Task.ensures_tell]
    exact fun answer => .absent _ answer
  case isFalse =>
    simp only [Task.ensures_bind, Task.ensures_tell, Task.ensures_log, Task.ensures_attempt]
    rintro (f | _)
    · exact .unannounced _ f
    · dsimp only [Except.map]
      rintro (f | _)
      · dsimp only
        split
        case h_1 left cause same =>
          cases same
          simp only [Task.ensures_bind, Task.ensures_log, Task.ensures_change,
            Task.ensures_checkpointThenFail]
          exact ⟨.partly _ left cause _, fun g => .partly _ left cause _⟩
        case h_2 g other same =>
          cases same
          exact .failed _ f other
        case h_3 same => cases same
      · simp only [Task.ensures_bind, Task.ensures_change, Task.ensures_checkpoint]
        exact ⟨.deleted _ _, fun g => .deleted _ _⟩

namespace Directing
variable {e : Environment} {es : List Exchange}

theorem started (h : Directing e es) {x : Exchange} (member : x ∈ es)
    (starts : ∃ command, command ∈ x.call.commands) :
    ∃ r, x = ⟨.deleteDirector e, r⟩ := by
  obtain ⟨command, given⟩ := starts
  cases h with
  | absent | unannounced =>
      cases List.mem_singleton.mp member
      cases given
  | failed | partly | deleted =>
      simp only [List.mem_cons, List.not_mem_nil, or_false] at member
      rcases member with rfl | rfl | rfl
      all_goals first | exact ⟨_, rfl⟩ | cases given

theorem savings_of_failed (h : Directing e es) {f : Fault}
    (failed : ⟨.deleteDirector e, .error f⟩ ∈ es) :
    (∃ left cause, f = .directorLeft left cause ∧
      es.filterMap (·.call.saving) = [{ e with director := left.director }]) ∨
    ((∀ left cause, f ≠ .directorLeft left cause) ∧ es.filterMap (·.call.saving) = []) := by
  cases h with
  | absent | unannounced => nomatch List.mem_singleton.mp failed
  | failed text g bare =>
      simp only [List.mem_cons, List.not_mem_nil, or_false] at failed
      rcases failed with other | same
      · cases other
      · cases same
        exact .inr ⟨bare, rfl⟩
  | partly text left cause saved =>
      simp only [List.mem_cons, List.not_mem_nil, or_false] at failed
      rcases failed with other | same | other
      · cases other
      · cases same
        exact .inl ⟨left, cause, rfl, rfl⟩
      · cases other
  | deleted text saved =>
      simp only [List.mem_cons, List.not_mem_nil, or_false] at failed
      rcases failed with other | other | other <;> cases other

end Directing

section
variable [Limits]

/-- The fault that keeps what is left of a director from being saved. Before it is saved it is copied. -/
inductive Unsaved (e : Environment) (reply : ProcessReply) : Fault → Prop
  | untold {f : Fault} (untold : Bosh.Untold e reply f) : Unsaved e reply f
  | tooDeep {left : Environment}
      (recovered : Bosh.Recovered e (reply.change (Bosh.handed e.director)) left)
      (deep : Limits.copying < left.director.height) : Unsaved e reply .exhausted

/-- What a site makes of a deletion whose program has failed. -/
inductive Failure (e : Environment) (reply : ProcessReply) : Except Fault Unit → Prop
  | told {left : Environment} {cause : Fault}
      (recovered : Bosh.Recovered e (reply.change (Bosh.handed e.director)) left)
      (shallow : left.director.height ≤ Limits.copying) :
      Failure e reply (.error (.directorLeft left cause))
  | unsaved {f : Fault} (unsaved : Unsaved e reply f) : Failure e reply (.error f)

theorem Unsaved.bare {e : Environment} {reply : ProcessReply} {f : Fault} (h : Unsaved e reply f)
    (left : Environment) (cause : Fault) : f ≠ .directorLeft left cause := by
  cases h with
  | untold untold => exact untold.bare left cause
  | tooDeep => nofun

theorem Site.deleteDirector_engages (s : Site) (e : Environment) (h : Host) :
    (s.deleteDirector e).Engages id h fun es r _ =>
      ∀ l, .launch l ∈ es → l.reply.ending.Failed → Failure e l.reply r := by
  refine Act.engages_bind (Act.engages_attempt ((s.bosh.delete_engages e h).mono ?_))
  rintro es r h' (⟨rfl, ⟨f, rfl⟩, -⟩ | ⟨l, rfl, -, -, deletion⟩)
  · dsimp only
    split
    · split
      · exact Act.engages_fail fun l started => nomatch started
      · refine Host.engages_note fun h'' _ => Act.engages_fail fun l started => nomatch started
    · exact Act.engages_ofExcept fun l started => nomatch started
  · have only {Q : Launch → Prop} (q : l.reply.ending.Failed → Q l) :
        ∀ l', .launch l' ∈ [Contact.launch l] ++ [] → l'.reply.ending.Failed → Q l' := by
      rintro l' started failed
      cases List.mem_singleton.mp started
      exact q failed
    cases deletion with
    | deleted judged =>
        refine Act.engages_ofExcept (only fun failed => ?_)
        exact absurd failed (Command.not_failed_of_judge rfl judged)
    | @recovered cause left tells judged recovered =>
        dsimp only
        rw [Environment.copy]
        split
        case h_1 copied =>
          split at copied
          case isTrue shallow =>
            cases copied
            exact Act.engages_fail (only fun _ => .told recovered shallow)
          case isFalse => cases copied
        case h_2 copied =>
          split at copied
          case isTrue => cases copied
          case isFalse deep =>
            cases copied
            refine Host.engages_note fun h'' _ => Act.engages_fail (only fun _ => ?_)
            exact .unsaved (.tooDeep recovered (Nat.lt_of_not_le deep))
    | @untold f untold =>
        dsimp only
        split
        case h_1 left cause same => exact absurd (Except.error.inj same) (untold.bare left cause)
        case h_2 => exact Act.engages_ofExcept (only fun _ => .unsaved (.untold untold))

/-- A program that a deletion has started decides what the deletion comes to. -/
theorem failure_of_launch {x : Episode Site} (answered : x.Answered) {e : Environment}
    {r : Except Fault Unit} (deletes : x.exchange = ⟨.deleteDirector e, r⟩) {l : Launch}
    (member : l ∈ x.launches) (failed : l.reply.ending.Failed) : Failure e l.reply r := by
  obtain ⟨before, exchange, after⟩ := x
  cases deletes
  obtain ⟨es, -, launches, outcome⟩ := answered.contacts fun s tags =>
    Site.onHost_engages (fun h => s.deleteDirector_engages e h) tags
  rw [launches] at member
  obtain ⟨contact, started, same⟩ := List.mem_filterMap.mp member
  cases contact with
  | request q => cases same
  | launch l' =>
      cases same
      exact outcome l started failed

/-- A site saves what is left of a director exactly if it was told. -/
theorem failed_deletion_saves (s : Site) (p : Progress) :
    let xs := (deleteDirector p).episodes Site.handler s
    ∀ x ∈ xs, ∀ l ∈ x.launches, l.reply.ending.Failed →
      (∃ left cause, Bosh.Recovered p.env (l.reply.change (Bosh.handed p.env.director)) left ∧
        left.director.height ≤ Limits.copying ∧
        x.exchange = ⟨.deleteDirector p.env, .error (.directorLeft left cause)⟩ ∧
        xs.filterMap (·.exchange.call.saving) = [left]) ∨
      (∃ f, Unsaved p.env l.reply f ∧ x.exchange = ⟨.deleteDirector p.env, .error f⟩ ∧
        xs.filterMap (·.exchange.call.saving) = []) := by
  intro xs x member l launched failed
  have answered : x.Answered := Program.episodes_answered member
  have directs : Directing p.env (xs.map (·.exchange)) := by
    rw [Program.episodes_history]
    exact (deleteDirector_directs p).performed Site.handler s
  have among : x.exchange ∈ xs.map (·.exchange) := List.mem_map_of_mem member
  obtain ⟨command, given, -⟩ := answered.launch_runs launched
  obtain ⟨r, deletes⟩ := directs.started among ⟨command, given⟩
  have failure := failure_of_launch answered deletes launched failed
  rw [deletes] at among
  have savings : xs.filterMap (·.exchange.call.saving)
      = (xs.map (·.exchange)).filterMap (·.call.saving) := by
    rw [List.filterMap_map]
    rfl
  rw [savings, deletes]
  cases failure with
  | @told left cause recovered shallow =>
      refine .inl ⟨left, cause, recovered, shallow, rfl, ?_⟩
      rcases directs.savings_of_failed among with ⟨left', cause', same, saves⟩ | ⟨bare, -⟩
      · cases same
        rw [saves, recovered.kept]
      · exact absurd rfl (bare left cause)
  | @unsaved f unsaved =>
      refine .inr ⟨f, unsaved, rfl, ?_⟩
      rcases directs.savings_of_failed among with ⟨left, cause, rfl, -⟩ | ⟨-, none⟩
      · exact absurd rfl (unsaved.bare left cause)
      · exact none

end

def directed : Environment := { director := { name := "lake", manifest := "name: lake" } }

def leavingSite (reply : ProcessReply) : Site :=
  .of {} directed ⟨⟨true, []⟩⟩ 80 { replies := [reply] }

end Dismantle.Teardown
