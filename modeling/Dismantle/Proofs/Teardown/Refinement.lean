import Dismantle.Proofs.Teardown.Mirror
/-! Chains of runs on a file against chains in memory. While there is anything on record the file is
as good as the memory; once nothing is, it is gone, and nobody misses it. -/
namespace Dismantle.Teardown

/-- What a run is given: its arguments, and what its calls will meet with. -/
structure Turn where
  arguments : List String
  script : Script

/-- What is told of a run: its calls, its end, and the record that it left in memory. -/
structure Report where
  calls : List Call
  outcome : Except Fault Outcome
  memory : Environment

namespace Turn
variable (supported : List Provider) (s : Store)

/-- Runs from the record that a stage keeps. -/
def play (t : Turn) (stage : Stage) : Report × Stage :=
  let played := (run supported t.arguments { env := stage.kept }).perform
    (Stage.handler t.script) stage
  (⟨played.2.calls, played.1.1, played.1.2.env⟩, played.2)

/-- Runs from a record in memory. Beside the report there is the record saved last. -/
def inMemory (t : Turn) (k : Environment) : Report × Environment :=
  let played := t.play supported { kept := k }
  (played.1, played.2.kept)

def saving (t : Turn) (k : Environment) : Act Host Report := fun h =>
  let played := t.play supported { host := h, store := some s, kept := k }
  (.ok played.1, played.2.host)

def onFile (t : Turn) : Act Host Report := s.load >>= t.saving supported s

/-- The record saved last after runs in memory, each of which starts from the one before. -/
def keptAfter (turns : List Turn) (k : Environment) : Environment :=
  turns.foldl (fun k t => (t.inMemory supported k).2) k

def hostAfter (turns : List Turn) (h : Host) : Host :=
  turns.foldl (fun h t => (t.onFile supported s h).2) h

end Turn

/-- Calls that delete something, or save a record. -/
def Call.changes : Call → Bool
  | .deleteDirector _ | .deleteStack _ | .deleteCertificate _ | .deleteAwsKeyPair _
  | .terraformDestroy _ | .deleteGcpKeyPair _ | .save _ => true
  | _ => false

/-- How a run on a file stands to the run in memory, where `k` was saved last. -/
structure Refines (supported : List Provider) (s : Store) (k : Environment) (h : Host)
    (next : Turn) : Prop where
  loads : (s.load h).1 = .ok k
  /-- While there is something on record, the runs cannot be told apart, nor what they save. -/
  alike : k.isEmpty = false →
    (next.onFile supported s h).1 = .ok (next.inMemory supported k).1 ∧
      (s.load (next.onFile supported s h).2).1 = .ok (next.inMemory supported k).2
  /-- Once nothing is on record, the file is gone. Without it a run fails unless it is skipped, and
  leaves the files alone. -/
  gone : k.isEmpty = true → h.files.has s.file = false ∧
    (next.onFile supported s h).2.files = h.files ∧
    ∃ report, (next.onFile supported s h).1 = .ok report ∧ report.memory = {} ∧
      (∀ c ∈ report.calls, c.touches = false) ∧
      ∀ outcome, report.outcome = .ok outcome → outcome.status = .skipped
  /-- A run in memory would have nothing left to delete. -/
  missed : k.isEmpty = true → (next.inMemory supported k).2 = {} ∧
    (next.inMemory supported k).1.memory = {} ∧
    ∀ c ∈ (next.inMemory supported k).1.calls, c.changes = false

theorem Call.unchanging_of_due {c : Call} (due : c.Due {}) (unsaving : c.saving = none) :
    c.changes = false := by
  cases c with
  | deleteDirector e => exact absurd due.2 (by decide)
  | deleteStack name => exact absurd rfl due.2.2
  | deleteCertificate name => exact absurd rfl due.2.2
  | deleteAwsKeyPair name => exact absurd due.1 (by decide)
  | terraformDestroy d => exact absurd due.1 (by decide)
  | deleteGcpKeyPair key => exact absurd due.1 (by decide)
  | save e => cases unsaving
  | _ => rfl

theorem Move.of_nothing {b : Standing} {x : Exchange} (h : Move (.level {}) x b) :
    b = .level {} ∧ x.call.changes = false := by
  have unchanging := Call.unchanging_of_due h.due
  cases h with
  | idle idle => exact ⟨rfl, unchanging idle.saving⟩
  | removal removal => cases removal <;> cases unchanging rfl
  | remnant remnant => cases remnant <;> cases unchanging rfl
  | destroyed => cases unchanging rfl

theorem Course.of_nothing {z : Standing} {es : List Exchange} (h : Course (.level {}) es z) :
    z = .level {} ∧ ∀ x ∈ es, x.call.changes = false := by
  induction es with
  | nil =>
      cases h
      exact ⟨rfl, List.forall_mem_nil _⟩
  | cons x es ih =>
      cases h with
      | cons move rest =>
          obtain ⟨rfl, first⟩ := move.of_nothing
          obtain ⟨last, others⟩ := ih rest
          exact ⟨last, List.forall_mem_cons.mpr ⟨first, others⟩⟩

section Gone
variable {α : Type} {script : Script} {b : Stage}

theorem Stage.answer_files (tags : Log.Tags) {c : Call} (untouching : c.touches = false) :
    (Stage.answer script tags c b).2.host.files = b.host.files := by
  unfold Stage.answer
  dsimp only
  cases script.fault c with
  | some f => rfl
  | none =>
      cases c with
      | validateRecord e => exact Stage.validate_files tags e _
      | save e => cases untouching
      | _ => rfl

theorem Stage.perform_files (p : Program α) (b : Stage)
    (untouching : Untouching (p.history (Stage.handler script) b)) :
    (p.perform (Stage.handler script) b).2.host.files = b.host.files := by
  induction p generalizing b with
  | done r => rfl
  | log r next ih => exact ih _ untouching
  | call tags c next ih =>
      obtain ⟨first, others⟩ := List.forall_mem_cons.mp untouching
      exact (ih _ _ others).trans (Stage.answer_files tags first)

theorem Stage.validate_missing {s : Store} (tags : Log.Tags) (e : Environment)
    (store : b.store = some s) (missing : b.host.files.has s.file = false) :
    (Stage.validate tags e b).1 ≠ .ok () := by
  obtain ⟨h, files, result, -⟩ := Stage.onHost_host tags (s.validate e) b
  intro passes
  unfold Stage.validate at passes
  rw [store] at passes
  rw [passes] at result
  unfold Store.validate at result
  rw [Store.exists_, files, missing] at result
  cases result

theorem Stage.answer_invalid {s : Store} (tags : Log.Tags) (e : Environment)
    (store : b.store = some s) (missing : b.host.files.has s.file = false) :
    (Stage.answer script tags (.validateRecord e) b).1 ≠ .ok () := by
  intro passes
  unfold Stage.answer at passes
  dsimp only at passes
  cases fails : script.fault (.validateRecord e) with
  | some f =>
      rw [fails] at passes
      cases passes
  | none =>
      let noted : Stage := { b with calls := b.calls ++ [.validateRecord e] }
      have refused : (Stage.validate tags e noted).1 ≠ .ok () :=
        Stage.validate_missing tags e store missing
      rw [fails] at passes
      exact refused passes

theorem Stage.history_invalid {s : Store} (p : Program α) {e : Environment} (b : Stage)
    (store : b.store = some s) (missing : b.host.files.has s.file = false) (rest : List Exchange) :
    p.history (Stage.handler script) b ≠ ⟨.validateRecord e, .ok ()⟩ :: rest := by
  induction p generalizing b with
  | done r => nofun
  | log r next ih => exact ih _ store missing
  | call tags c next ih =>
      intro same
      obtain ⟨first, -⟩ := List.cons.inj same
      obtain ⟨rfl, answer⟩ := Exchange.mk.inj first
      exact Stage.answer_invalid tags e store missing (eq_of_heq answer)

theorem Agreed.head {arguments : List String} {e : Environment} {es : List Exchange}
    (h : Agreed arguments e es) : ∃ rest, es = ⟨.validateRecord e, .ok ()⟩ :: rest := by
  cases h with
  | intro => exact ⟨_, rfl⟩

theorem Passed.head {supported : List Provider} {arguments : List String} {e : Environment}
    {es : List Exchange} (h : Passed supported arguments e es) :
    ∃ rest, es = ⟨.validateRecord e, .ok ()⟩ :: rest := by
  cases h with
  | intro equipped =>
    cases equipped with
    | intro agreed =>
      obtain ⟨rest, rfl⟩ := agreed.head
      exact ⟨_, rfl⟩

theorem Halted.skipped_or_valid {supported : List Provider} {arguments : List String}
    {e : Environment} {es : List Exchange} {r : Except Fault Status} {status : Status}
    (h : Halted supported arguments e es r) (ended : r = .ok status) :
    status = .skipped ∨ ∃ rest, es = ⟨.validateRecord e, .ok ()⟩ :: rest := by
  cases h with
  | skipped told =>
      cases told with
      | error f => cases ended
      | ok => exact .inl (Except.ok.inj ended).symm
  | declined => exact .inr ⟨_, rfl⟩
  | _ => cases ended

end Gone

namespace Turn
variable {supported : List Provider} {s : Store} {t : Turn} {h : Host} {k : Environment}

theorem load_host (s : Store) (h : Host) : (s.load (τ := String) h).2.files = h.files := by
  unfold Store.load
  split
  case isTrue => cases h.files.contentAt s.file <;> rfl
  case isFalse => rfl

theorem onFile_of_loaded (loaded : (s.load h).1 = .ok k) :
    t.onFile supported s h = t.saving supported s k (s.load (τ := String) h).2 := by
  have split : s.load h = (.ok k, (s.load (τ := String) h).2) := Prod.ext loaded rfl
  rw [onFile, Act.bind_apply, split]

def history (supported : List Provider) (t : Turn) (stage : Stage) : List Exchange :=
  (run supported t.arguments { env := stage.kept }).history (Stage.handler t.script) stage

theorem play_calls (t : Turn) (stage : Stage) : (t.play supported stage).1.calls =
    stage.calls ++ (t.history supported stage).map (·.call) :=
  Stage.perform_calls t.script _ stage

theorem play_kept (t : Turn) (stage : Stage) :
    (t.play supported stage).2.kept = kept stage.kept (t.history supported stage) :=
  Stage.perform_kept t.script _ stage

theorem history_leaves (supported : List Provider) (storable : t.script.Storable) (stage : Stage) :
    ∀ x ∈ t.history supported stage, x.Leaves :=
  storable.leaves _ stage

theorem play_course (supported : List Provider) (t : Turn) (stage : Stage) :
    ∃ z, Course (.level stage.kept) (t.history supported stage) z ∧
      z.memory = (t.play supported stage).1.memory := by
  obtain ⟨z, course, memory, -⟩ := run_course (Stage.handler t.script) stage supported t.arguments
    { env := stage.kept }
  exact ⟨z, course, memory⟩

theorem play_mirrors (supported : List Provider) (holds : s.Holds h.files k)
    (enduring : k.Enduring) (nonempty : k.isEmpty = false) (storable : t.script.Storable) :
    (t.play supported { host := h, store := some s, kept := k }).1
        = (t.play supported { kept := k }).1 ∧
      Stage.Mirrors s (t.play supported { kept := k }).2
        (t.play supported { host := h, store := some s, kept := k }).2 := by
  have sound := run_sound (Stage.handler t.script) { kept := k } supported t.arguments { env := k }
    nonempty enduring (history_leaves supported storable { kept := k })
  have start : Stage.Mirrors s { kept := k } { host := h, store := some s, kept := k } :=
    ⟨rfl, rfl, rfl, rfl, rfl, holds⟩
  obtain ⟨same, mirrors⟩ := start.perform _ sound
  refine ⟨?_, mirrors⟩
  simp only [play]
  rw [same, mirrors.calls]

theorem inMemory_enduring (enduring : k.Enduring) (storable : t.script.Storable) :
    (t.inMemory supported k).2.Enduring := by
  obtain ⟨z, course, -⟩ := t.play_course supported { kept := k }
  have saved := (course.enduring (history_leaves supported storable _) enduring enduring).2
  rw [course.kept] at saved
  rw [inMemory, play_kept]
  exact saved

theorem inMemory_of_nothing (supported : List Provider) (t : Turn) :
    (t.inMemory supported {}).2 = {} ∧ (t.inMemory supported {}).1.memory = {} ∧
      ∀ c ∈ (t.inMemory supported {}).1.calls, c.changes = false := by
  obtain ⟨z, course, memory⟩ := t.play_course supported { kept := {} }
  obtain ⟨rfl, unchanging⟩ := course.of_nothing
  refine ⟨?_, memory.symm, ?_⟩
  · rw [inMemory, play_kept]
    exact course.kept.symm
  · intro c member
    rw [inMemory, play_calls, List.nil_append] at member
    obtain ⟨x, there, rfl⟩ := List.mem_map.mp member
    exact unchanging x there

/-- Without a file, a run ends in the check of its record, or is skipped. -/
theorem play_gone (missing : h.files.has s.file = false) (supported : List Provider) (t : Turn) :
    let played := t.play supported { host := h, store := some s, kept := {} }
    played.2.host.files = h.files ∧ played.1.memory = {} ∧
      (∀ c ∈ played.1.calls, c.touches = false) ∧
      ∀ outcome, played.1.outcome = .ok outcome → outcome.status = .skipped := by
  intro played
  let stage : Stage := { host := h, store := some s, kept := {} }
  have invalid : ∀ rest, t.history supported stage ≠ ⟨.validateRecord {}, .ok ()⟩ :: rest :=
    Stage.history_invalid _ stage rfl missing
  have guarded :=
    (run_ensures supported t.arguments { env := {} }).performed (Stage.handler t.script) stage
  obtain ⟨untouching, same, halted⟩ := guarded.halted <| .inr <| by
    rintro ⟨passed, rest, split, checks⟩
    obtain ⟨more, rfl⟩ := checks.head
    exact invalid (more ++ rest) split
  refine ⟨Stage.perform_files _ stage untouching, congrArg Progress.env same, ?_, ?_⟩
  · intro c member
    rw [play_calls, List.nil_append] at member
    obtain ⟨x, there, rfl⟩ := List.mem_map.mp member
    exact untouching x there
  · intro outcome ended
    have ended := congrArg (Except.map (·.status)) ended
    rcases halted.skipped_or_valid ended with skipped | ⟨rest, valid⟩
    · exact skipped
    · exact absurd valid (invalid rest)

theorem refines (supported : List Provider) (holds : s.Holds h.files k) (enduring : k.Enduring)
    (storable : t.script.Storable) :
    Refines supported s k h t ∧
      s.Holds (t.onFile supported s h).2.files (t.inMemory supported k).2 := by
  have loaded := holds.loads h rfl
  have files := load_host s h
  rw [← files] at holds
  cases empty : k.isEmpty with
  | false =>
      obtain ⟨same, mirrors⟩ := play_mirrors supported holds enduring empty storable
      have held : s.Holds (t.onFile supported s h).2.files (t.inMemory supported k).2 := by
        rw [onFile_of_loaded loaded]
        exact mirrors.holds
      have full : k.isEmpty ≠ true := Bool.eq_false_iff.mp empty
      refine ⟨⟨loaded, fun _ => ⟨?_, held.loads _ rfl⟩, (absurd · full), (absurd · full)⟩, held⟩
      rw [onFile_of_loaded loaded]
      exact congrArg Except.ok same
  | true =>
      obtain rfl := Environment.eq_of_isEmpty empty enduring.version
      have missing := holds.there
      obtain ⟨untouched, memory, calls, outcome⟩ := play_gone missing supported t
      obtain ⟨still, rest⟩ := t.inMemory_of_nothing supported
      refine ⟨⟨loaded, ?_, fun _ => ⟨files ▸ missing, ?_, ?_⟩, fun _ => ⟨still, rest⟩⟩, ?_⟩
      · intro full
        cases full
      · rw [onFile_of_loaded loaded]
        exact untouched.trans files
      · refine ⟨_, ?_, memory, calls, outcome⟩
        rw [onFile_of_loaded loaded]
        rfl
      · rw [onFile_of_loaded loaded, still]
        have untouched : (t.saving supported s {} (s.load (τ := String) h).2).2.files
            = (s.load (τ := String) h).2.files := untouched
        rw [untouched]
        exact holds

theorem chain_holds (supported : List Provider) (turns : List Turn)
    (storable : ∀ t ∈ turns, t.script.Storable) (holds : s.Holds h.files k)
    (enduring : k.Enduring) : s.Holds (hostAfter supported s turns h).files (keptAfter supported turns k)
      ∧ (keptAfter supported turns k).Enduring := by
  induction turns generalizing h k with
  | nil => exact ⟨holds, enduring⟩
  | cons t turns ih =>
      obtain ⟨first, others⟩ := List.forall_mem_cons.mp storable
      obtain ⟨-, held⟩ := refines supported holds enduring first
      exact ih others held (inMemory_enduring enduring first)

end Turn

open Turn

/-- A run in which deleting the director fails and leaves a deployment's state. -/
def leaving (state : Fields) : Turn where
  arguments := ["-n"]
  script := { fault := fun
    | .deleteDirector _ => some (.directorLeft (Store.lake state) (.plain .timeout "timed out"))
    | _ => none }

/-- A run that ends in the check of its record. -/
def barred : Turn where
  arguments := ["-n"]
  script := { fault := fun
    | .validateRecord _ => some (.plain .timeout "timed out")
    | _ => none }

/-- How many faults a run has ended with. -/
def Report.faults (r : Report) : Nat :=
  match r.outcome with
  | .ok _ => 0
  | .error (.several parts) => parts.length
  | .error _ => 1

theorem barred_shows {s : Store} {h : Host} {k e : Environment} (loaded : (s.load h).1 = .ok e)
    (other : e ≠ k) :
    (barred.onFile Provider.all s h).1 ≠ .ok (barred.inMemory Provider.all k).1 := by
  rw [onFile_of_loaded loaded]
  intro same
  exact other (congrArg Report.memory (Except.ok.inj same))

end Dismantle.Teardown
