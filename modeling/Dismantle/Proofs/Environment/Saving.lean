import Dismantle.Environment.Store
import Dismantle.Proofs.Files.Directories
/-! Saving a record. The record's file changes in one step at the end, or not at all; until then
there are at most a draft and new directories on the way to it. -/
namespace Dismantle

namespace Host
variable {step : FileTree → Except SystemFault FileTree} {f : SystemFault → Fault} {h : Host}

theorem change_of_ok {files : FileTree} (made : step h.files = .ok files) :
    change step f h = (.ok (), { h with files }) := by
  rw [change, made]

theorem change_of_error {e : SystemFault} (refused : step h.files = .error e) :
    change step f h = (.error (f e), h) := by
  rw [change, refused]

end Host

namespace Store

theorem name_parts : Path.ofText fileName = ⟨false, [fileName]⟩ := by
  decide +kernel

theorem file_eq (s : Store) : s.file = ⟨s.directory.absolute, s.directory.parts ++ [fileName]⟩ := by
  rw [file, Path.child, name_parts]
  rfl

theorem draft_eq (s : Store) :
    s.draft = ⟨s.directory.absolute, s.directory.parts ++ ["envteardown-state.tmp"]⟩ := by
  rw [draft, file_eq, Path.withSuffix]
  simp [fileName]
  rfl

theorem file_place (s : Store) : s.file.place = s.directory.place ++ [fileName] := by
  rw [file_eq]
  exact Place.follow_name [] s.directory.parts (by decide)

theorem draft_place (s : Store) : s.draft.place = s.directory.place ++ ["envteardown-state.tmp"] := by
  rw [draft_eq]
  exact Place.follow_name [] s.directory.parts (by decide)

theorem draft_ne_file (s : Store) : s.draft.place ≠ s.file.place := by
  rw [draft_place, file_place]
  intro same
  exact absurd (List.append_cancel_left same) (by decide)

theorem file_ne_root (s : Store) : s.file.place ≠ [] := by
  rw [file_place]
  exact List.append_ne_nil_of_right_ne_nil _ (List.cons_ne_nil _ _)

theorem draft_ne_root (s : Store) : s.draft.place ≠ [] := by
  rw [draft_place]
  exact List.append_ne_nil_of_right_ne_nil _ (List.cons_ne_nil _ _)

section
variable {s : Store} {t t₁ t₂ t₃ : FileTree}

theorem elsewhere_of_grown (grown : t.Grown s.directory.LeadsThrough t₁)
    (same : ∀ q, q ≠ s.file.place → q ≠ s.draft.place → t₂.lookup q = t₁.lookup q) (q : Place)
    (notFile : q ≠ s.file.place) (notDraft : q ≠ s.draft.place) :
    t₂.lookup q = t.lookup q ∨
      (s.directory.LeadsThrough q ∧ t.lookup q = none ∧ t₂.lookup q = some .directory) := by
  rw [same q notFile notDraft]
  exact grown q

/-- Where a draft was written and moved, it is now the file, and there is no draft. -/
theorem replaced_files {c : Content} (written : t₁.withContent s.draft c = .ok t₂)
    (moved : t₂.replaceFile s.draft s.file = .ok t₃) :
    t₃.find s.file = .ok (.file c) ∧ t₃.lookup s.draft.place = none ∧
      ∀ q, q ≠ s.file.place → q ≠ s.draft.place → t₃.lookup q = t₁.lookup q := by
  obtain ⟨-, -, rfl⟩ := FileTree.withContent_eq_ok written
  obtain ⟨passable, free, c', file, rfl⟩ := FileTree.replaceFile_eq_ok moved
  rw [FileTree.lookup_put_self s.draft_ne_root] at file
  cases file
  have elsewhere (q : Place) (notFile : q ≠ s.file.place) (notDraft : q ≠ s.draft.place) :
      (((t₁.put s.draft.place (.file c)).erase s.draft.place).put s.file.place (.file c)).lookup q
        = t₁.lookup q := by
    rw [FileTree.lookup_put_of_ne notFile, FileTree.lookup_erase_of_ne notDraft,
      FileTree.lookup_put_of_ne notDraft]
  refine ⟨?_, ?_, elsewhere⟩
  · refine FileTree.find_eq_ok.mpr ⟨passable.mono fun q there => ?_, FileTree.lookup_put_self s.file_ne_root⟩
    have notFile : q ≠ s.file.place := by
      rintro rfl
      exact free there
    have notDraft : q ≠ s.draft.place := by
      rintro rfl
      rw [FileTree.lookup_put_self s.draft_ne_root] at there
      cases there
    rw [elsewhere q notFile notDraft, ← there, FileTree.lookup_put_of_ne notDraft]
  · rw [FileTree.lookup_put_of_ne s.draft_ne_file, FileTree.lookup_erase_self s.draft_ne_root]

end

variable [Limits] {τ : Type} [Wording τ] [DecidableEq τ]

/-- What saving a record in the files `t` may come to. -/
inductive Saving (s : Store) (e : Environment τ) (t : FileTree) : Except Fault Unit → FileTree → Prop
  /-- There is nothing to remember, and nothing was remembered. -/
  | absent (empty : e.isEmpty = true) (missing : t.has s.file = false) : Saving s e t (.ok ()) t
  /-- There is nothing to remember any more. -/
  | removed {t' : FileTree} (empty : e.isEmpty = true) (gone : t.removeFile s.file = .ok t') :
      Saving s e t (.ok ()) t'
  /-- The file cannot be removed. -/
  | stuck (f : Fault) : Saving s e t (.error f) t
  /-- The directory cannot be made, or the draft cannot be written. -/
  | unwritten {t₁ : FileTree} (f : Fault) (grown : t.Grown s.directory.LeadsThrough t₁) :
      Saving s e t (.error f) t₁
  /-- The draft is not finished, or cannot take the file's place. -/
  | drafted {t₁ t₂ : FileTree} (f : Fault) (grown : t.Grown s.directory.LeadsThrough t₁)
      (written : t₁.withContent s.draft (.text (begun e)) = .ok t₂) : Saving s e t (.error f) t₂
  /-- The finished draft has taken the file's place. -/
  | replaced {t₁ t₂ t₃ : FileTree} (nonempty : e.isEmpty = false) (whole : finished e = .ok ())
      (grown : t.Grown s.directory.LeadsThrough t₁)
      (written : t₁.withContent s.draft (.text (form e)) = .ok t₂)
      (moved : t₂.replaceFile s.draft s.file = .ok t₃) : Saving s e t (.ok ()) t₃

omit [DecidableEq τ] in
theorem finished_eq_ok {e : Environment τ} :
    finished e = .ok () ↔ (∃ v, e.written = .ok v) ∧ cutShort e = none := by
  unfold finished
  cases e.written <;> cases cutShort e <;> simp [bind, Except.bind]

omit [DecidableEq τ] in
theorem begun_of_finished {e : Environment τ} (whole : finished e = .ok ()) : begun e = form e := by
  obtain ⟨⟨v, written⟩, none⟩ := finished_eq_ok.mp whole
  rw [begun, written, none]

theorem remove_saving (s : Store) {e : Environment τ} (empty : e.isEmpty = true) (h : Host) :
    s.Saving e h.files (s.remove h).1 (s.remove h).2.files := by
  unfold remove
  split
  case isFalse missing => exact .absent empty (Bool.eq_false_iff.mpr missing)
  case isTrue =>
    rw [Act.bind_apply]
    cases step : h.files.removeFile s.file with
    | error f =>
        rw [Host.change_of_error step]
        exact .stuck _
    | ok t =>
        rw [Host.change_of_ok step]
        exact .removed empty step

theorem save_saving (s : Store) (e : Environment τ) (h : Host) :
    s.Saving e h.files (s.save e h).1 (s.save e h).2.files := by
  unfold save
  split
  case isTrue empty => exact remove_saving s empty h
  case isFalse nonempty =>
    have grown := FileTree.reachDirectory_grown h.files s.directory.parts.length s.directory
    simp only [Act.bind_apply, Host.makeDirectories]
    cases run : h.files.reachDirectory s.directory.parts.length s.directory with | mk r t₁ =>
    rw [run] at grown
    cases r with
    | error f => exact .unwritten _ grown
    | ok =>
      simp only [Except.mapError]
      cases written : t₁.withContent s.draft (.text (begun e)) with
      | error f =>
          rw [Host.change_of_error written]
          exact .unwritten _ grown
      | ok t₂ =>
          rw [Host.change_of_ok written]
          cases done : finished e with
          | error f => exact .drafted _ grown written
          | ok =>
              have text := begun_of_finished done
              dsimp only [Act.ofExcept]
              cases moved : t₂.replaceFile s.draft s.file with
              | error f =>
                  rw [Host.change_of_error moved]
                  exact .drafted _ grown written
              | ok t₃ =>
                  rw [Host.change_of_ok moved]
                  rw [text] at written
                  exact .replaced (Bool.eq_false_iff.mpr nonempty) done grown written moved

/-- What has become of the files `before` when saving a record ended with a result. -/
structure AllOrNothing (s : Store) (e : Environment τ) (before : FileTree) (result : Except Fault Unit)
    (after : FileTree) : Prop where
  /-- Away from the file and the draft there are at most new directories, on the way to them. -/
  elsewhere : ∀ q, q ≠ s.file.place → q ≠ s.draft.place → after.lookup q = before.lookup q ∨
    (s.directory.LeadsThrough q ∧ before.lookup q = none ∧ after.lookup q = some .directory)
  /-- A record that was saved is in its file, and no draft is left. -/
  saved : result = .ok () → e.isEmpty = false →
    after.find s.file = .ok (.file (.text (form e))) ∧ after.lookup s.draft.place = none
  /-- A record without content has no file. -/
  removed : result = .ok () → e.isEmpty = true → after.has s.file = false
  /-- When saving fails, the file is there as before, or missing as before. -/
  kept : ∀ f, result = .error f → ∀ c,
    after.lookup s.file.place = some (.file c) ↔ before.lookup s.file.place = some (.file c)

variable {s : Store} {e : Environment τ} {t : FileTree}

theorem Saving.allOrNothing {r : Except Fault Unit} {t' : FileTree} (h : s.Saving e t r t') :
    s.AllOrNothing e t r t' := by
  cases h with
  | absent empty missing =>
      refine ⟨fun q _ _ => .inl rfl, ?_, fun _ _ => missing, nofun⟩
      intro _ full
      rw [empty] at full
      cases full
  | removed empty gone =>
      obtain ⟨-, -, rfl⟩ := FileTree.removeFile_eq_ok gone
      refine ⟨fun q notFile _ => .inl (FileTree.lookup_erase_of_ne notFile), ?_, ?_, nofun⟩
      · intro _ full
        rw [empty] at full
        cases full
      · intro _ _
        exact FileTree.has_eq_false (FileTree.lookup_erase_self s.file_ne_root)
  | stuck f => exact ⟨fun q _ _ => .inl rfl, nofun, nofun, fun _ _ _ => .rfl⟩
  | unwritten f grown =>
      exact ⟨elsewhere_of_grown grown fun q _ _ => rfl, nofun, nofun, fun _ _ _ => grown.file⟩
  | drafted f grown written =>
      obtain ⟨-, -, rfl⟩ := FileTree.withContent_eq_ok written
      refine ⟨elsewhere_of_grown grown fun q _ notDraft => FileTree.lookup_put_of_ne notDraft, nofun,
        nofun, ?_⟩
      intro _ _ c
      rw [FileTree.lookup_put_of_ne s.draft_ne_file.symm]
      exact grown.file
  | replaced nonempty whole grown written moved =>
      obtain ⟨found, noDraft, same⟩ := replaced_files written moved
      refine ⟨elsewhere_of_grown grown same, fun _ _ => ⟨found, noDraft⟩, ?_, nofun⟩
      intro _ empty
      rw [nonempty] at empty
      cases empty

/-- Saving a record is all or nothing, whatever files there are. -/
theorem save_allOrNothing (s : Store) (e : Environment τ) (h : Host) :
    s.AllOrNothing e h.files (s.save e h).1 (s.save e h).2.files :=
  (s.save_saving e h).allOrNothing

end Store
end Dismantle
