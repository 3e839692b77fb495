import Dismantle.Proofs.Environment.RoundTrip
import Dismantle.Proofs.Teardown.Chain
import Dismantle.Proofs.Teardown.Validation
/-! One teardown rehearsed twice, once with its records in memory alone and once with a file. As long
as the records are such as a file keeps, nobody can tell the rehearsals apart. -/
namespace Dismantle

/-- The record has the version that is checked, and a file keeps its director's data. -/
structure Environment.Enduring (e : Environment) : Prop where
  version : e.version = recordVersion
  data : e.director.Storable

theorem Environment.Enduring.storable {e : Environment} (h : e.Enduring) : e.Storable :=
  Environment.storable_of_director h.data

theorem Environment.eq_of_isEmpty {e : Environment} (empty : e.isEmpty = true)
    (version : e.version = recordVersion) : e = {} := by
  obtain ⟨version, provider, envId, aws, gcp, keyPair, director, stack, tfState⟩ := e
  obtain ⟨name, username, password, address, certificate, key, credentials, state, manifest⟩ := director
  simp only [Environment.isEmpty, Director.isEmpty, Bool.and_eq_true, beq_iff_eq,
    List.isEmpty_iff] at empty version
  obtain ⟨⟨⟨⟨⟨⟨⟨rfl, rfl⟩, rfl⟩, rfl⟩, rfl⟩, director⟩, rfl⟩, rfl⟩ := empty
  obtain ⟨⟨⟨⟨⟨⟨⟨⟨rfl, rfl⟩, rfl⟩, rfl⟩, rfl⟩, rfl⟩, rfl⟩, rfl⟩, rfl⟩ := director
  subst version
  rfl

namespace Store
variable {s : Store} {e k : Environment} {t : FileTree}

theorem load_files {h h' : Host} (same : h'.files = h.files) :
    ((s.load h').1 : Except Fault Environment) = (s.load h).1 := by
  unfold load
  rw [same]
  split
  case isTrue => cases h.files.contentAt s.file <;> rfl
  case isFalse => rfl

/-- Among these files a store can save, and what it loads is the record. -/
structure Holds (s : Store) (t : FileTree) (e : Environment) : Prop where
  writable : s.Writable t
  there : t.has s.file = !e.isEmpty
  loads : ∀ h : Host, h.files = t → (s.load h).1 = .ok e

theorem save_holds {h : Host} (writable : s.Writable h.files) (enduring : e.Enduring) :
    (s.save e h).1 = .ok () ∧ s.Holds (s.save e h).2.files e := by
  have short : Json.Short e.version := by
    rw [enduring.version]
    exact recordVersion_short
  have saved : (s.save e h).1 = .ok () := by
    rw [save_of_writable writable, finished_of_storable enduring.storable short, ite_self]
  have outcome := (s.save_saving e h).allOrNothing
  refine ⟨saved, (s.save_saving e h).writable writable, ?_, ?_⟩
  · cases empty : e.isEmpty with
    | true => exact outcome.removed saved empty
    | false => exact FileTree.has_eq_true.mpr ⟨_, (outcome.saved saved empty).1⟩
  · intro h' same
    rw [load_files same, load_of_saved enduring.storable saved]
    split
    case isTrue empty => rw [Environment.eq_of_isEmpty empty enduring.version]
    case isFalse => rfl

theorem validate_host (s : Store) (e : Environment) (h : Host) : (s.validate e h).2 = h := by
  unfold Store.validate
  split
  · rfl
  split
  · rfl
  · rfl

/-- A record of the right version passes where the store holds one with content. -/
theorem Holds.validate {h : Host} (holds : s.Holds h.files k) (nonempty : k.isEmpty = false)
    (version : e.version = recordVersion) : (s.validate e h).1 = .ok () := by
  have there : s.exists_ h.files = true := by
    rw [exists_, holds.there, nonempty, Bool.not_false]
  unfold Store.validate
  rw [there, Bool.not_true, if_neg Bool.false_ne_true, if_neg (not_not_intro version)]

end Store

namespace Teardown

theorem Untouching.kept {es : List Exchange} (h : Untouching es) (k : Environment) :
    kept k es = k := by
  induction es with
  | nil => rfl
  | cons x es ih =>
      obtain ⟨first, others⟩ := List.forall_mem_cons.mp h
      have unsaved : x.saved = none := by
        unfold Exchange.saved
        split
        · cases first
        · rfl
      rw [Teardown.kept, List.foldl_cons, unsaved]
      exact ih others

/-- If the exchange tells of a director, then of one whose data a file keeps. -/
def Exchange.Leaves (x : Exchange) : Prop :=
  ∀ d, x.finding.director = some d → d.Storable

theorem Exchange.Leaves.applied {x : Exchange} {e : Environment} (leaves : x.Leaves)
    (enduring : e.Enduring) : (x.applied e).Enduring := by
  refine ⟨enduring.version, ?_⟩
  cases told : x.finding.director with
  | none =>
      simp only [Exchange.applied, told, Option.getD_none]
      exact enduring.data
  | some d =>
      simp only [Exchange.applied, told, Option.getD_some]
      exact leaves d told

theorem Course.enduring {a z : Standing} {es : List Exchange} (h : Course a es z)
    (leaves : ∀ x ∈ es, x.Leaves) (known : a.known.Enduring) (kept : a.kept.Enduring) :
    z.known.Enduring ∧ z.kept.Enduring :=
  (h.lasting_while (fun _ _ leaves enduring _ => leaves.applied enduring) leaves known kept).1

/-- What failed deletions leave of a director, in this script, is data that a file keeps. -/
def Script.Storable (script : Script) : Prop :=
  ∀ c left cause, script.fault c = some (.directorLeft left cause) → left.director.Storable

theorem Exchange.telling_director {x : Exchange} {d : Director} (told : x.finding.director = some d) :
    d = {} ∨ ∃ e left cause, x = ⟨.deleteDirector e, .error (.directorLeft left cause)⟩ ∧
      d = left.director := by
  unfold Exchange.finding at told
  split at told
  · exact .inl (Option.some.inj told).symm
  · exact .inr ⟨_, _, _, rfl, (Option.some.inj told).symm⟩
  all_goals cases told

theorem Script.Storable.answer {script : Script} (storable : script.Storable) (tags : Log.Tags)
    (c : Call) (s : Stage) : Exchange.Leaves ⟨c, (Stage.answer script tags c s).1⟩ := by
  intro d told
  rcases Exchange.telling_director told with rfl | ⟨e, left, cause, same, rfl⟩
  · exact Director.storable_of_state rfl Json.durable_empty rfl
  · obtain ⟨rfl, answer⟩ := Exchange.mk.inj same
    have answer := eq_of_heq answer
    unfold Stage.answer at answer
    cases fails : script.fault (.deleteDirector e) with
    | none =>
        rw [fails] at answer
        cases answer
    | some f =>
        rw [fails] at answer
        cases answer
        exact storable _ left cause fails

theorem Script.Storable.leaves {α : Type} {script : Script} (storable : script.Storable)
    (p : Program α) (s : Stage) : ∀ x ∈ p.history (Stage.handler script) s, x.Leaves := by
  induction p generalizing s with
  | done a => exact List.forall_mem_nil _
  | log r next ih => exact ih _
  | call tags c next ih => exact List.forall_mem_cons.mpr ⟨storable.answer tags c s, ih _ _⟩

/-- A call that a file answers as the memory does, where `k` was saved last. -/
def Call.Sound (k : Environment) : Call → Prop
  | .validateRecord e => k.isEmpty = false ∧ e.version = recordVersion
  | .save e => e.Enduring
  | _ => True

def Sound (k : Environment) (es : List Exchange) : Prop :=
  ∀ before x after, es = before ++ x :: after → x.call.Sound (kept k before)

/-- A run that starts from a record with content makes sound calls, if what is left by failed
deletions is data that a file keeps. -/
theorem run_sound {σ : Type} (h : Handler σ) (s : σ) (supported : List Provider)
    (arguments : List String) (p : Progress) (nonempty : p.env.isEmpty = false)
    (enduring : p.env.Enduring)
    (leaves : ∀ x ∈ (run supported arguments p).history h s, x.Leaves) :
    Sound p.env ((run supported arguments p).history h s) := by
  intro before x after split
  have valid := run_validatesFirst h s supported arguments p before x after
  obtain ⟨z, course, -⟩ := run_course h s supported arguments p
  rw [split] at course leaves
  obtain ⟨a, first, rest⟩ := course.cut
  obtain ⟨c, answer⟩ := x
  cases c with
  | validateRecord e =>
      obtain ⟨rfl, untouching⟩ := valid e split rfl
      rw [untouching.kept]
      exact ⟨nonempty, enduring.version⟩
  | save e =>
      cases rest with
      | cons move _ =>
          have due : e = a.known := move.due
          have leaves := fun x member => leaves x (List.mem_append_left _ member)
          rw [due]
          exact (first.enduring leaves enduring enduring).1
  | _ => trivial

/-- A stage that keeps records in memory, and one that keeps the same ones in a file. -/
structure Stage.Mirrors (s : Store) (a b : Stage) : Prop where
  memory : a.store = none
  file : b.store = some s
  calls : b.calls = a.calls
  saves : b.saves = a.saves
  kept : b.kept = a.kept
  holds : s.Holds b.host.files a.kept

namespace Stage
variable {script : Script} {s : Store} {a b : Stage}

theorem onHost_host {α : Type} (tags : Log.Tags) (act : Act Host α) (s : Stage) :
    ∃ h : Host, h.files = s.host.files ∧ (onHost tags act s).1 = (act h).1 ∧
      (onHost tags act s).2.host.files = (act h).2.files :=
  ⟨{ s.host with journal := { s.host.journal with tags } }, rfl, rfl, rfl⟩

theorem Mirrors.save (tags : Log.Tags) {e : Environment} (h : Mirrors s a b)
    (enduring : e.Enduring) : (Stage.save script tags e b).1 = (Stage.save script tags e a).1 ∧
      Mirrors s (Stage.save script tags e a).2 (Stage.save script tags e b).2 := by
  obtain ⟨host, store, calls, saves, kept⟩ := a
  obtain ⟨host', store', calls', saves', kept'⟩ := b
  obtain ⟨rfl, rfl, rfl, rfl, rfl, holds⟩ := h
  unfold Stage.save
  dsimp only
  cases script.saveFault saves' with
  | some f => exact ⟨rfl, rfl, rfl, rfl, rfl, rfl, holds⟩
  | none =>
      let b : Stage := ⟨host', some s, calls', saves' + 1, kept'⟩
      obtain ⟨h, files, result, after⟩ := onHost_host tags (s.save e) b
      obtain ⟨saved, held⟩ := Store.save_holds (h := h) (files ▸ holds.writable) enduring
      have ran : onHost tags (s.save e) b = (.ok (), (onHost tags (s.save e) b).2) :=
        Prod.ext (result.trans saved) rfl
      dsimp only [b] at ran after ⊢
      rw [ran]
      exact ⟨rfl, rfl, rfl, rfl, rfl, rfl, after ▸ held⟩

theorem validate_files (tags : Log.Tags) (e : Environment) (a : Stage) :
    (Stage.validate tags e a).2.host.files = a.host.files := by
  unfold Stage.validate
  split
  case h_1 s _ =>
    obtain ⟨h, files, -, after⟩ := onHost_host tags (s.validate e) a
    rw [after, Store.validate_host, files]
  case h_2 => rfl

theorem Mirrors.validate (tags : Log.Tags) {e : Environment} (h : Mirrors s a b)
    (nonempty : a.kept.isEmpty = false) (version : e.version = recordVersion) :
    (Stage.validate tags e b).1 = (Stage.validate tags e a).1 ∧
      Mirrors s (Stage.validate tags e a).2 (Stage.validate tags e b).2 := by
  have files := validate_files tags e b
  unfold Stage.validate at files ⊢
  rw [h.memory]
  rw [h.file] at files ⊢
  obtain ⟨host, same, result, -⟩ := onHost_host tags (s.validate e) b
  have passes : (s.validate e host).1 = .ok () :=
    Store.Holds.validate (same ▸ h.holds) nonempty version
  exact ⟨result.trans passes, h.memory, h.file, h.calls, h.saves, h.kept, files ▸ h.holds⟩

/-- Both stages answer a sound call alike, and go on to mirror each other. -/
theorem Mirrors.answer (script : Script) (tags : Log.Tags) (c : Call) (h : Mirrors s a b)
    (sound : c.Sound a.kept) :
    (Stage.answer script tags c b).1 = (Stage.answer script tags c a).1 ∧
      Mirrors s (Stage.answer script tags c a).2 (Stage.answer script tags c b).2 := by
  have noted : Mirrors s { a with calls := a.calls ++ [c] } { b with calls := b.calls ++ [c] } :=
    ⟨h.memory, h.file, congrArg (· ++ [c]) h.calls, h.saves, h.kept, h.holds⟩
  unfold Stage.answer
  dsimp only
  cases script.fault c with
  | some f => exact ⟨rfl, noted⟩
  | none =>
      cases c with
      | save e => exact noted.save tags sound
      | validateRecord e => exact noted.validate tags sound.1 sound.2
      | _ => exact ⟨rfl, noted⟩

/-- Carried out on both stages, a program that makes sound calls ends alike. -/
theorem Mirrors.perform {α : Type} (p : Program α) (h : Mirrors s a b)
    (sound : Sound a.kept (p.history (handler script) a)) :
    (p.perform (handler script) b).1 = (p.perform (handler script) a).1 ∧
      Mirrors s (p.perform (handler script) a).2 (p.perform (handler script) b).2 := by
  induction p generalizing a b with
  | done r => exact ⟨rfl, h⟩
  | log r next ih =>
      have logged : Mirrors s ((handler script).log r a) ((handler script).log r b) :=
        ⟨h.memory, h.file, h.calls, h.saves, h.kept, h.holds⟩
      exact ih logged sound
  | call tags c next ih =>
      obtain ⟨same, answered⟩ := h.answer script tags c (sound [] _ _ rfl)
      have rest : Sound (Stage.answer script tags c a).2.kept
          ((next (Stage.answer script tags c a).1).history (handler script)
            (Stage.answer script tags c a).2) := by
        intro before x after split
        rw [answer_kept]
        exact sound (⟨c, (Stage.answer script tags c a).1⟩ :: before) x after
          (congrArg (_ :: ·) split)
      simp only [Program.perform, handler]
      rw [same]
      exact ih _ answered rest

end Stage
end Teardown
end Dismantle
