import Dismantle.Fault.Report
import Dismantle.Proofs.Host.Engagement
/-! How processes end, which files they see, and what they leave of them. -/
namespace Dismantle

/-- The process has not done its work, as far as can be told: it never started, its status tells of a
failure, or what it printed cannot be read. -/
def ProcessEnding.Failed : ProcessEnding → Prop
  | .notStarted _ | .refused | .garbled .. => True
  | .exited status _ _ => status ≠ 0

instance : DecidablePred ProcessEnding.Failed
  | .notStarted _ | .refused | .garbled .. => .isTrue trivial
  | .exited status _ _ => inferInstanceAs (Decidable (status ≠ 0))

theorem ProcessEnding.exited_of_not_failed {ending : ProcessEnding} (h : ¬ending.Failed) :
    ∃ output errors, ending = .exited 0 output errors := by
  cases ending with
  | notStarted | refused | garbled => exact absurd trivial h
  | exited status output errors => exact ⟨output, errors, by rw [Classical.not_not.mp h]⟩

/-- The program itself has failed: it never started, or its status tells of a failure. -/
def ProcessEnding.Tells : ProcessEnding → Prop
  | .notStarted _ => True
  | .refused | .garbled .. => False
  | .exited status _ _ => status ≠ 0

/-- What goes wrong around a program is a fault that is no report on it. -/
inductive ProcessEnding.Escapes : ProcessEnding → Fault → Prop
  | refused : Escapes .refused (.plain .value "embedded null byte")
  | garbled (status : Int) (fault : Text.Utf8.Fault) :
      Escapes (.garbled status fault) (.undecodable fault)

theorem ProcessEnding.Tells.failed {ending : ProcessEnding} (h : ending.Tells) : ending.Failed := by
  cases ending with
  | notStarted | refused | garbled => trivial
  | exited => exact h

theorem ProcessEnding.Escapes.not_tells {ending : ProcessEnding} {f : Fault} (h : ending.Escapes f) :
    ¬ending.Tells := by
  cases h <;> exact id

namespace Command

/-- The report on a program that has failed, or else a fault that is none. -/
theorem judge_eq_error {c : Command} {ending : ProcessEnding} {f : Fault}
    (h : c.judge ending = .error f) :
    (f.isCommand = true ∧ ending.Tells) ∨ (f.isCommand = false ∧ ending.Escapes f) := by
  cases ending with
  | notStarted number =>
      cases h
      exact .inl ⟨rfl, trivial⟩
  | refused =>
      cases h
      exact .inr ⟨rfl, .refused⟩
  | garbled status fault =>
      cases h
      exact .inr ⟨rfl, .garbled status fault⟩
  | exited status output errors =>
      rw [judge] at h
      split at h
      case isTrue failed =>
          cases h
          exact .inl ⟨rfl, failed.2⟩
      case isFalse => cases h

theorem judge_of_failed {c : Command} {ending : ProcessEnding} (check : c.check = true)
    (failed : ending.Failed) : ∃ f, c.judge ending = .error f := by
  cases ending with
  | notStarted | refused | garbled => exact ⟨_, rfl⟩
  | exited status output errors =>
      rw [judge, if_pos ⟨check, failed⟩]
      exact ⟨_, rfl⟩

/-- A program that is checked has succeeded when its result is taken. -/
theorem judge_eq_ok {c : Command} {ending : ProcessEnding} {r : CommandResult}
    (check : c.check = true) (h : c.judge ending = .ok r) :
    ending = .exited 0 r.output r.errors := by
  cases ending with
  | notStarted | refused | garbled => cases h
  | exited status output errors =>
      simp only [judge, check, true_and] at h
      split at h
      case isTrue => cases h
      case isFalse zero =>
          cases h
          rw [Classical.not_not.mp zero]

/-- A program that is checked has failed exactly if no result is taken. -/
theorem judge_isError_iff {c : Command} {ending : ProcessEnding} (check : c.check = true) :
    (∃ f, c.judge ending = .error f) ↔ ending.Failed := by
  constructor
  · rintro ⟨f, judged⟩
    cases ending with
    | notStarted | refused | garbled => trivial
    | exited status output errors =>
        rintro rfl
        rw [judge, if_neg fun wrong => wrong.2 rfl] at judged
        cases judged
  · exact judge_of_failed check

theorem judge_of_exited (c : Command) (output errors : String) :
    c.judge (.exited 0 output errors) = .ok { status := 0, output, errors, line := c.line } := by
  rw [judge, if_neg fun wrong => wrong.2 rfl]

theorem not_failed_of_judge {c : Command} {ending : ProcessEnding} {r : CommandResult}
    (check : c.check = true) (h : c.judge ending = .ok r) : ¬ending.Failed := by
  intro failed
  obtain ⟨f, judged⟩ := judge_of_failed check failed
  rw [h] at judged
  cases judged

end Command

namespace NamedFiles

theorem get?_cons (files : NamedFiles) (name other : String) (c : Content) :
    get? ((name, c) :: files) other = if other = name then some c else files.get? other := by
  by_cases same : other = name
  · simp [get?, same]
  · simp only [get?, List.lookup_cons, beq_eq_false_iff_ne.mpr same, if_neg same]

theorem get?_put (files : NamedFiles) (name other : String) (c : Content) :
    (files.put name c).get? other = if other = name then some c else files.get? other := by
  induction files with
  | nil => rw [put, get?_cons]
  | cons f files ih =>
      obtain ⟨n, d⟩ := f
      rw [put, get?_cons]
      split
      case isTrue same =>
          subst same
          rw [get?_cons]
          split <;> rfl
      case isFalse apart =>
          rw [get?_cons, ih]
          split
          case isTrue here =>
              subst here
              rw [if_neg apart]
          case isFalse => rfl

theorem get?_erase_of_ne {name other : String} (different : other ≠ name) (files : NamedFiles) :
    (files.erase name).get? other = files.get? other := by
  induction files with
  | nil => rfl
  | cons f files ih =>
      obtain ⟨n, d⟩ := f
      unfold erase at ih ⊢
      rw [List.filter_cons, get?_cons]
      split
      case isTrue => rw [get?_cons, ih]
      case isFalse gone =>
          have same : n = name := by simpa using gone
          rw [ih, if_neg (same ▸ different)]

end NamedFiles

namespace ProcessReply

def Spares (r : ProcessReply) (name : String) : Prop :=
  name ∉ r.writes.map Prod.fst ∧ name ∉ r.deletes

theorem get?_change {r : ProcessReply} {name : String} (spares : r.Spares name)
    (files : NamedFiles) : (r.change files).get? name = files.get? name := by
  obtain ⟨writes, deletes, ending⟩ := r
  obtain ⟨unwritten, kept⟩ := spares
  have erased (fs : NamedFiles) : (deletes.foldl NamedFiles.erase fs).get? name = fs.get? name := by
    clear unwritten
    induction deletes generalizing fs with
    | nil => rfl
    | cons n deletes ih =>
        obtain ⟨other, later⟩ := not_or.mp (mt List.mem_cons.mpr kept)
        rw [List.foldl_cons, ih later, NamedFiles.get?_erase_of_ne other]
  have put : (writes.foldl (fun fs f => NamedFiles.put fs f.1 f.2) files).get? name
      = files.get? name := by
    clear kept erased
    induction writes generalizing files with
    | nil => rfl
    | cons f writes ih =>
        obtain ⟨other, later⟩ := not_or.mp (mt List.mem_cons.mpr unwritten)
        rw [List.foldl_cons, ih _ later, NamedFiles.get?_put, if_neg other]
  exact (erased _).trans put

end ProcessReply

theorem Contact.launch?_launches (ls : List Launch) :
    (ls.map Contact.launch).filterMap Contact.launch? = ls := by
  rw [List.filterMap_map]
  exact List.filterMap_some

theorem ProcessStart.outcome_of_arguments {s : ProcessStart} (arguments : s.arguments.all isArgument)
    (r : ProcessReply) : s.outcome r = r := by
  rw [outcome, if_pos arguments]

/-- The first process to be started does what is known first, if its arguments can be given. -/
theorem Host.reply_of_launches {h h' : Host} {l : Launch} {ls : List Launch}
    (launched : h.launches h' = l :: ls) :
    l.start ∈ h'.starts ∧ (l.start.arguments.all isArgument = true → l.reply = h.replies.headD {}) := by
  unfold launches at launched
  cases starts : h'.starts.drop h.starts.length with
  | nil =>
      rw [starts] at launched
      cases launched
  | cons start later =>
      rw [starts] at launched
      cases launched
      have member : start ∈ h'.starts.drop h.starts.length := starts ▸ List.mem_cons_self
      exact ⟨List.mem_of_mem_drop member, fun arguments => ProcessStart.outcome_of_arguments arguments _⟩

namespace Launch

/-- The process is given a command and sees these files. -/
structure Begins (l : Launch) (command : List String) (files : NamedFiles) : Prop where
  runs : l.Runs command
  sees : l.start.files = files

/-- The files once the process has ended. -/
def leaves (l : Launch) : NamedFiles := l.reply.change l.start.files

end Launch

theorem Host.engages_putFile {α : Type} {next : Act Host α} {h : Host} {w : Workspace}
    {name : String} {c : Content} (at_ : h.workspace = some w)
    {Q : List Contact → Except Fault α → Host → Prop}
    (engages : ∀ h', h'.workspace = some { w with files := w.files.put name c } →
      next.Engages id h' Q) : (putFile name c >>= fun _ => next).Engages id h Q := by
  refine Act.engages_bind (Act.engages_quiet rfl rfl rfl (engages _ ?_))
  change h.workspace.map _ = _
  rw [at_]
  rfl

/-- What follows the writing of a text, if bytes can spell it, finds it in the workspace. -/
theorem Host.engages_writeText {α : Type} {next : Act Host α} {h : Host} {w : Workspace}
    {name : String} {t : Spelling} (at_ : h.workspace = some w)
    {Q : List Contact → Except Fault α → Host → Prop}
    (blocked : ∀ f, t.encodable = .error f → Q [] (.error (.unencodable f)) h)
    (engages : ∀ s h', t.encodable = .ok s →
      h'.workspace = some { w with files := w.files.put name (.text s) } → next.Engages id h' Q) :
    (writeText name t >>= fun _ => next).Engages id h Q := by
  rw [writeText]
  cases spelled : t.encodable with
  | error f => exact Act.engages_bind (Act.engages_fail (blocked f spelled))
  | ok s => exact engages_putFile at_ fun h' there => engages s h' spelled there

theorem Host.engages_note {α : Type} {next : Act Host α} {h : Host} {level : Log.Level}
    {logger message : String} {Q : List Contact → Except Fault α → Host → Prop}
    (engages : ∀ h', h'.workspace = h.workspace → next.Engages id h' Q) :
    (note level logger message >>= fun _ => next).Engages id h Q :=
  Act.engages_bind (Act.engages_quiet rfl rfl rfl (engages _ rfl))

/-- A program that is started in a workspace sees its files, and leaves there what it leaves. -/
theorem Command.run_begins {c : Command} (inside : c.inWorkspace = true) (unnamed : c.named = [])
    {h : Host} {w : Workspace} (at_ : h.workspace = some w) (command : List String)
    (begins : command <+: c.arguments.tail)
    {Q : List Contact → Except Fault CommandResult → Host → Prop}
    (q : ∀ l h', l.start.arguments = c.arguments → Launch.Begins l command w.files →
      h'.workspace = some { w with files := l.leaves } →
        Q [.launch l] (c.judge l.reply.ending) h') : c.run.Engages id h Q := by
  have sees : (c.start h).files = w.files := by
    rw [start, if_pos inside, at_, unnamed]
    exact List.append_nil w.files
  refine c.run_engages fun reply h' left => q ⟨c.start h, reply⟩ h' rfl ⟨c.runs begins, sees⟩ ?_
  rw [left, at_, Command.left, if_pos inside, Launch.leaves, sees]
  rfl

end Dismantle
