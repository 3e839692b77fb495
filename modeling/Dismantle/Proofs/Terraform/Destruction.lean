import Dismantle.Proofs.Files.Reading
import Dismantle.Proofs.Host.Ending
import Dismantle.Proofs.Json.Access
import Dismantle.Terraform.Tool
/-! Destroying what a state holds: the processes that are started for it, the files that they see,
and the state that is told to be left. -/
namespace Dismantle.Terraform
open Teardown (Destruction)

/-- The files that the program is given, if bytes can spell them. There is a state file only if there
is a state. -/
def handed (d : Destruction) : Except Text.Unencodable NamedFiles := do
  let template ← d.template.encodable
  let credentials ← d.credentials.encodable
  let state ← d.tfState.encodable
  let files := [("template.tf", .text template), ("credentials.json", .text credentials)]
  return if state = "" then files else files ++ [("terraform.tfstate", .text state)]

/-- The processes of an attempt at destroying, the files that they leave, and how the last one ends. -/
inductive Attempt (given : NamedFiles) : List Launch → NamedFiles → ProcessEnding → Prop
  | unprepared {init : Launch} (begins : init.Begins ["init"] given)
      (failed : init.reply.ending.Failed) : Attempt given [init] init.leaves init.reply.ending
  | prepared {init destroying : Launch} (begins : init.Begins ["init"] given)
      (succeeded : ¬init.reply.ending.Failed) (follows : destroying.Begins ["destroy"] init.leaves) :
      Attempt given [init, destroying] destroying.leaves destroying.reply.ending

/-- The state that is found among files. Without a state file it is the one that is known. -/
inductive StateLeft (known : String) (files : NamedFiles) : Except Fault String → Prop
  | missing (gone : files.get? "terraform.tfstate" = none) : StateLeft known files (.ok known)
  | held {c : Content} {s : String} (found : files.get? "terraform.tfstate" = some c)
      (holds : c.Holds s) : StateLeft known files (.ok s)
  | illegible {c : Content} {f : Text.Utf8.Fault} (found : files.get? "terraform.tfstate" = some c)
      (unread : c.read = .error f) : StateLeft known files (.error (.undecodable f))

/-- What destroying comes to when an attempt has left these files. The failure of a program tells the
state that is left, or the one that was given; a success gives the state that is left, or none. What goes
wrong around a program tells no state at all. -/
inductive Conclusion (known : String) (files : NamedFiles) :
    ProcessEnding → Except Fault String → Prop
  | told {ending : ProcessEnding} {left : Except Fault String} (tells : ending.Tells) (cause : Fault)
      (report : cause.isCommand = true) (state : StateLeft known files left) :
      Conclusion known files ending (left >>= fun s => .error (.infrastructureLeft s cause))
  | escaped {ending : ProcessEnding} {f : Fault} (escapes : ending.Escapes f) :
      Conclusion known files ending (.error f)
  | destroyed {ending : ProcessEnding} {left : Except Fault String} (succeeded : ¬ending.Failed)
      (state : StateLeft "" files left) : Conclusion known files ending left

/-- What destroying comes to, from its processes on: nothing is started if some text cannot be put
down, and otherwise the state is taken from what an attempt leaves of the files. -/
inductive Course (d : Destruction) : List Launch → Except Fault String → Prop
  | unwritten {f : Text.Unencodable} (blocked : handed d = .error f) :
      Course d [] (.error (.unencodable f))
  | ran {given files : NamedFiles} {ls : List Launch} {ending : ProcessEnding}
      {r : Except Fault String} (written : handed d = .ok given)
      (attempt : Attempt given ls files ending)
      (conclusion : Conclusion d.tfState.shown files ending r) : Course d ls r

section
variable {d : Destruction} {given files : NamedFiles} {ls : List Launch} {ending : ProcessEnding}

theorem handed_state (written : handed d = .ok given) : ∃ s, d.tfState = .plain s ∧
    given.get? "terraform.tfstate" = if s = "" then none else some (.text s) := by
  obtain ⟨template, -, written⟩ := Except.bind_eq_ok written
  obtain ⟨credentials, -, written⟩ := Except.bind_eq_ok written
  obtain ⟨s, spelled, written⟩ := Except.bind_eq_ok written
  refine ⟨s, Spelling.encodable_eq_ok.mp spelled, ?_⟩
  rw [← Except.ok.inj written]
  split <;> rfl

/-- A file that no process touches is left as it was given. -/
theorem Attempt.spared {name : String} (attempt : Attempt given ls files ending)
    (spared : ∀ l ∈ ls, l.reply.Spares name) : files.get? name = given.get? name := by
  have through {l : Launch} {command : List String} {seen : NamedFiles} (member : l ∈ ls)
      (begins : l.Begins command seen) : l.leaves.get? name = seen.get? name := by
    rw [Launch.leaves, ProcessReply.get?_change (spared l member), begins.sees]
  cases attempt with
  | unprepared begins => exact through (by simp) begins
  | prepared begins succeeded follows =>
      exact (through (by simp) follows).trans (through (by simp) begins)

theorem Attempt.ending_of_failed (attempt : Attempt given ls files ending) {l : Launch}
    (member : l ∈ ls) (failed : l.reply.ending.Failed) : ending = l.reply.ending := by
  cases attempt with
  | unprepared => rw [List.mem_singleton.mp member]
  | prepared begins succeeded =>
      simp only [List.mem_cons, List.not_mem_nil, or_false] at member
      rcases member with rfl | rfl
      · exact absurd failed succeeded
      · rfl

theorem Conclusion.of_tells {known : String} {r : Except Fault String}
    (conclusion : Conclusion known files ending r) (tells : ending.Tells) : ∃ left cause,
      cause.isCommand = true ∧ StateLeft known files left ∧
        r = left >>= fun s => .error (.infrastructureLeft s cause) := by
  cases conclusion with
  | told _ cause report state => exact ⟨_, cause, report, state, rfl⟩
  | escaped escapes => cases escapes <;> cases tells
  | destroyed succeeded => exact absurd tells.failed succeeded

theorem Conclusion.succeeded_of_ok {known tfState : String}
    (conclusion : Conclusion known files ending (.ok tfState)) : ¬ending.Failed := by
  generalize concluded : Except.ok tfState = r at conclusion
  cases conclusion with
  | @told left => cases left <;> cases concluded
  | escaped => cases concluded
  | destroyed succeeded => exact succeeded

theorem StateLeft.of_given {left : Except Fault String} (written : handed d = .ok given)
    (state : StateLeft d.tfState.shown files left)
    (same : files.get? "terraform.tfstate" = given.get? "terraform.tfstate") :
    ∃ s, left = .ok s ∧ Text.Unified d.tfState.shown.toList s.toList := by
  obtain ⟨known, spelled, put⟩ := handed_state written
  rw [put] at same
  rw [spelled] at state ⊢
  cases state with
  | missing gone =>
      rw [gone] at same
      split at same
      case isTrue empty =>
          rw [empty]
          exact ⟨"", rfl, .nil⟩
      case isFalse => cases same
  | @held c s found holds =>
      rw [found] at same
      split at same
      case isTrue => cases same
      case isFalse =>
          cases same
          cases holds with
          | text unified => exact ⟨s, rfl, unified⟩
  | illegible found unread =>
      rw [found] at same
      split at same
      case isTrue => cases same
      case isFalse =>
          cases same
          cases unread

end

namespace Tool

theorem readState_left (fallback : String) {h : Host} {w : Workspace} (at_ : h.workspace = some w) :
    (readState fallback).Engages id h fun es r _ => es = [] ∧ StateLeft fallback w.files r := by
  unfold Act.Engages readState
  rw [at_, Option.bind_some]
  split
  case h_1 gone => exact ⟨[], .quiet rfl rfl rfl, rfl, .missing gone⟩
  case h_2 c found =>
      refine ⟨[], .quiet rfl rfl rfl, rfl, ?_⟩
      cases read : c.read with
      | error f => exact .illegible found read
      | ok s => exact .held found (Content.read_eq_ok.mp read)

/-- How an attempt went is told by how its last process ended. -/
def Ended (ending : ProcessEnding) : Except Fault Unit → Prop
  | .ok _ => ¬ending.Failed
  | .error f => (f.isCommand = true ∧ ending.Tells) ∨ (f.isCommand = false ∧ ending.Escapes f)

/-- Where the files have been put down, the processes see them and what became of them. -/
theorem destroyCommands_attempt (t : Tool) (d : Destruction) {h : Host} {w : Workspace}
    (at_ : h.workspace = some w) :
    (t.destroyCommands d).Engages id h fun es r h' => ∃ ls files ending, es = ls.map .launch ∧
      Attempt w.files ls files ending ∧ Ended ending r ∧
      h'.workspace = some { w with files } := by
  refine Act.engages_bind (Command.run_begins rfl rfl at_ ["init"] ⟨_, rfl⟩ ?_)
  intro init h' _ begins there
  cases judged : (t.command ["init", "-input=false"] true).judge init.reply.ending with
  | error f =>
      have failed := (Command.judge_isError_iff rfl).mp ⟨f, judged⟩
      exact ⟨[init], _, _, rfl, .unprepared begins failed, Command.judge_eq_error judged, there⟩
  | ok _ =>
      have prepared := Command.not_failed_of_judge rfl judged
      let c := t.command (["destroy", "-auto-approve", stateArgument] ++ variableArguments d) true
      refine Act.engages_bind (Command.run_begins rfl rfl there ["destroy"] ⟨_, rfl⟩ ?_)
      intro destroying h'' _ follows there'
      have attempt := Attempt.prepared begins prepared follows
      cases judged' : c.judge destroying.reply.ending with
      | error f => exact ⟨_, _, _, rfl, attempt, Command.judge_eq_error judged', there'⟩
      | ok _ =>
          have succeeded := Command.not_failed_of_judge rfl judged'
          exact Act.engages_pure ⟨[init, destroying], _, _, rfl, attempt, succeeded, there'⟩

/-- Once everything has been put down, an attempt is made and concluded. -/
theorem attempt_concludes (t : Tool) (d : Destruction) {h : Host} {w : Workspace}
    (at_ : h.workspace = some w) (written : handed d = .ok w.files) :
    (do
      match ← Act.attempt (t.destroyCommands d) with
      | .error f =>
        if f.isCommand then
          let left ← readState d.tfState.shown
          Act.fail (.infrastructureLeft left f)
        else Act.fail f
      | .ok () =>
        Host.note Log.info logger ("terraform destroy completed for " ++ d.envId)
        readState "" : Act Host String).Engages id h
      fun es r _ => ∃ ls, es = ls.map .launch ∧ Course d ls r := by
  refine Act.engages_bind (Act.engages_attempt ?_)
  refine (t.destroyCommands_attempt d at_).mono ?_
  rintro es (f | _) h' ⟨ls, files, ending, rfl, attempt, ended, there⟩
  · rcases ended with ⟨report, tells⟩ | ⟨other, escapes⟩
    · dsimp only
      rw [if_pos report]
      refine Act.engages_bind ((readState_left d.tfState.shown there).mono ?_)
      rintro es left h'' ⟨rfl, state⟩
      have course := Course.ran written attempt (.told tells f report state)
      cases left with
      | error f' => exact ⟨ls, List.append_nil _, course⟩
      | ok s =>
          refine Act.engages_fail ⟨ls, ?_, course⟩
          rw [List.append_nil, List.append_nil]
    · dsimp only
      rw [if_neg (Bool.eq_false_iff.mp other)]
      exact Act.engages_fail ⟨ls, List.append_nil _, .ran written attempt (.escaped escapes)⟩
  · refine Host.engages_note fun h'' same => (readState_left "" (same.trans there)).mono ?_
    rintro es left h₄ ⟨rfl, state⟩
    exact ⟨ls, List.append_nil _, .ran written attempt (.destroyed ended state)⟩

theorem destroy_course (t : Tool) (d : Destruction) (h : Host) :
    (t.destroy d).Engages id h fun es r _ => ∃ ls, es = ls.map .launch ∧ Course d ls r := by
  refine Host.engages_inWorkspace (Host.engages_writeText rfl (fun f broken => ?_)
    fun template h₁ spelled at₁ => ?_)
  · refine ⟨[], rfl, .unwritten ?_⟩
    rw [handed, broken]
    rfl
  refine Host.engages_writeText at₁ (fun f broken => ?_) fun credentials h₂ spelled' at₂ => ?_
  · refine ⟨[], rfl, .unwritten ?_⟩
    rw [handed, spelled, broken]
    rfl
  dsimp only
  -- Whether or not there is a state to put down first, the attempt follows.
  split
  case isTrue some_ =>
    refine Host.engages_writeText at₂ (fun f broken => ?_) fun state h₃ spelled'' at₃ => ?_
    · refine ⟨[], rfl, .unwritten ?_⟩
      rw [handed, spelled, spelled', broken]
      rfl
    · refine t.attempt_concludes d at₃ ?_
      have there : state ≠ "" := by
        rintro rfl
        exact some_ (Spelling.encodable_eq_ok.mp spelled'')
      rw [handed, spelled, spelled', spelled'']
      exact congrArg Except.ok (if_neg there)
  case isFalse none =>
    refine t.attempt_concludes d at₂ ?_
    rw [handed, spelled, spelled', Classical.not_not.mp none]
    rfl

/-- A process that destroys infrastructure or prepares for that. -/
def IsDestruction (x : Contact) : Prop :=
  ∃ l, x = .launch l ∧ (l.Runs ["init"] ∨ l.Runs ["destroy"])

/-- Processes that destroy infrastructure, if they succeed. -/
structure Destroys (es : List Contact) (succeeded : Prop) : Prop where
  only : ∀ x ∈ es, IsDestruction x
  ended : succeeded → ∃ l, .launch l ∈ es ∧ l.Runs ["destroy"] ∧
    ∃ output errors, l.reply.ending = .exited 0 output errors

theorem destroys_of_attempt {given files : NamedFiles} {ls : List Launch} {ending : ProcessEnding}
    (attempt : Attempt given ls files ending) : Destroys (ls.map .launch) (¬ending.Failed) := by
  have init {l : Launch} {files : NamedFiles} (begins : l.Begins ["init"] files) :
      IsDestruction (.launch l) := ⟨l, rfl, .inl begins.runs⟩
  have destroy {l : Launch} {files : NamedFiles} (begins : l.Begins ["destroy"] files) :
      IsDestruction (.launch l) := ⟨l, rfl, .inr begins.runs⟩
  cases attempt with
  | unprepared begins failed =>
      exact ⟨List.forall_mem_singleton.mpr (init begins), fun succeeded => absurd failed succeeded⟩
  | @prepared _ destroying begins _ follows =>
      refine ⟨List.forall_mem_cons.mpr ⟨init begins, ?_⟩, fun succeeded => ?_⟩
      · exact List.forall_mem_singleton.mpr (destroy follows)
      · refine ⟨destroying, List.mem_cons_of_mem _ List.mem_cons_self, follows.runs, ?_⟩
        exact ProcessEnding.exited_of_not_failed succeeded

theorem destroy_engages (t : Tool) (d : Destruction) (h : Host) :
    (t.destroy d).Engages id h fun es r _ => Destroys es (∃ tfState, r = .ok tfState) := by
  refine (t.destroy_course d h).mono ?_
  rintro es r h' ⟨ls, rfl, course⟩
  cases course with
  | unwritten => exact ⟨List.forall_mem_nil _, nofun⟩
  | ran written attempt conclusion =>
      have destroys := destroys_of_attempt attempt
      refine ⟨destroys.only, ?_⟩
      rintro ⟨tfState, rfl⟩
      exact destroys.ended conclusion.succeeded_of_ok

end Tool

/-- If bytes can spell what is put down for it, destroying runs the program at most twice: once for
preparing, with the files in front of it, and then, if that went well, for destroying. What it comes to is
settled by the files that are left. A program that fails loses no state, and a state that no process
touches is told again, its line ends apart. -/
theorem destroy_settled (t : Tool) (d : Destruction) (h : Host) :
    let launches := h.launches (t.destroy d h).2
    let r := (t.destroy d h).1
    (∀ f, handed d = .error f → launches = [] ∧ r = .error (.unencodable f)) ∧
    (∀ given, handed d = .ok given → ∃ files ending,
      Attempt given launches files ending ∧ Conclusion d.tfState.shown files ending r) ∧
    ((∀ l ∈ launches, l.reply.Spares "terraform.tfstate") →
      (∃ l ∈ launches, l.reply.ending.Tells) → ∃ left cause,
        r = .error (.infrastructureLeft left cause) ∧ cause.isCommand = true ∧
          Text.Unified d.tfState.shown.toList left.toList) := by
  intro launches r
  obtain ⟨es, contacts, ls, rfl, course⟩ := t.destroy_course d h
  have launched : launches = ls := contacts.launches.trans (Contact.launch?_launches ls)
  have course : Course d ls r := course
  rw [launched]
  clear_value r
  cases course with
  | unwritten blocked =>
      rw [blocked]
      refine ⟨fun f same => ?_, nofun, fun _ => nofun⟩
      cases same
      exact ⟨rfl, rfl⟩
  | ran written attempt conclusion =>
      rw [written]
      refine ⟨nofun, fun given same => ?_, fun spared => ?_⟩
      · cases same
        exact ⟨_, _, attempt, conclusion⟩
      · rintro ⟨l, member, tells⟩
        have last := attempt.ending_of_failed member tells.failed
        obtain ⟨left, cause, report, state, concluded⟩ := conclusion.of_tells (last ▸ tells)
        obtain ⟨told, rfl, unified⟩ := state.of_given written (attempt.spared spared)
        exact ⟨told, cause, concluded, report, unified⟩

def pond : Destruction where
  credentials := "key"
  envId := "lake"
  projectId := "pond"
  zone := "shore"
  region := "valley"
  tfState := "blob"
  template := "resources"

/-- The second process leaves half of the state, prints what spells no text, and fails. -/
def garbling : Host where
  replies := [{}, { writes := [("terraform.tfstate", .text "half a blob")]
                    ending := .garbled 1 ⟨.badStart, 0, 0, 0xff⟩ }]

/-- What is left of the state is not told if what the program has printed spells no text, nor is a program
started whose credentials no bytes can spell. -/
theorem destroy_loses_state :
    (({} : Tool).destroy pond garbling).1 = .error (.undecodable ⟨.badStart, 0, 0, 0xff⟩) ∧
    (garbling.launches (({} : Tool).destroy pond garbling).2).map (·.leaves.get? "terraform.tfstate") =
      [some (.text "blob"), some (.text "half a blob")] ∧
    (({} : Tool).destroy { pond with credentials := .broken [0xd800] } garbling).1 =
      .error (.unencodable ⟨0, 0, 0xd800⟩) ∧
    garbling.launches (({} : Tool).destroy { pond with credentials := .broken [0xd800] } garbling).2 = [] :=
  ⟨rfl, rfl, rfl, rfl⟩

end Dismantle.Terraform
