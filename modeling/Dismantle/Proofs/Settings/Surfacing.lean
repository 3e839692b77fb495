import Dismantle.Proofs.Settings.Load
/-! Which faults of a file surface as bad settings. Bytes that spell no text, values that cannot be
and keys that are no text escape as they are; what counts for nothing passes for an empty file. -/
namespace Dismantle.Configuration
open Settings

/-- A load ends with settings or says that they are bad. -/
def Surfaces (r : Except Fault Settings) : Prop :=
  (∃ s, r = .ok s) ∨ ∃ message issues, r = .error (.badSettings message issues)

theorem surfaces_of (g : Given) : Surfaces (Settings.of g) := by
  rcases of_settled g with ⟨s, made, -⟩ | ⟨issues, refused, -⟩
  · exact .inl ⟨s, made⟩
  · exact .inr ⟨_, _, refused⟩

theorem refused_surfaces_iff {r : Yaml.Refusal} : Surfaces (.error (refused r)) ↔ r = .malformed := by
  cases r with
  | malformed => exact ⟨fun _ => rfl, fun _ => .inr ⟨_, _, rfl⟩⟩
  | tooDeep => simp [Surfaces, refused]
  | impossible p => cases p <;> simp [Surfaces, refused, Yaml.Impossible.fault]

theorem named_settled (es : List (Yaml.Value × Yaml.Value)) :
    ((∀ e ∈ es, e.1.IsText) ∧ ∃ g, named es = .ok g) ∨
      (∃ e ∈ es, ¬e.1.IsText) ∧ named es = .error (.wrongType "keywords must be strings") := by
  induction es with
  | nil => exact .inl ⟨List.forall_mem_nil _, [], rfl⟩
  | cons e rest ih =>
      obtain ⟨k, v⟩ := e
      cases text : k.spelling? with
      | some name =>
          have front : named ((k, v) :: rest) = (named rest).bind fun g => .ok ((name, v) :: g) := by
            rw [named, List.mapM_cons]
            dsimp only
            rw [text]
            rfl
          have isText : k.IsText := ⟨name, Yaml.Value.spelling?_eq_some.mp text⟩
          rw [front]
          rcases ih with ⟨texts, g, same⟩ | ⟨⟨e', member, strange⟩, same⟩ <;> rw [same]
          · exact .inl ⟨List.forall_mem_cons.mpr ⟨isText, texts⟩, _, rfl⟩
          · exact .inr ⟨⟨e', List.mem_cons_of_mem _ member, strange⟩, rfl⟩
      | none =>
          refine .inr ⟨⟨(k, v), List.mem_cons_self, fun isText => ?_⟩, ?_⟩
          · obtain ⟨name, same⟩ := isText
            cases text.symm.trans (Yaml.Value.spelling?_eq_some.mpr same)
          · rw [named, List.mapM_cons]
            dsimp only
            rw [text]
            rfl

theorem outcome_settled (es : List (Yaml.Value × Yaml.Value)) (overrides : Given) :
    ((∀ e ∈ es, e.1.IsText) ∧ Surfaces (outcome (.map es) overrides)) ∨
      (∃ e ∈ es, ¬e.1.IsText) ∧
        outcome (.map es) overrides = .error (.wrongType "keywords must be strings") := by
  have same : outcome (.map es) overrides =
    (named es).bind fun g => Settings.of (overridden g overrides) := rfl
  rw [same]
  rcases named_settled es with ⟨texts, g, names⟩ | ⟨strange, names⟩ <;> rw [names]
  · exact .inl ⟨texts, surfaces_of _⟩
  · exact .inr ⟨strange, rfl⟩

section
variable [Limits] [PieceReader]

/-- What reading a file is stopped by: what it begins with, a character in it, or all of it. -/
inductive Stopped (content : Content) : Yaml.Refusal → Prop
  | early {f : Fault} {r : Yaml.Refusal} (corrupt : content.Corrupt f)
      (early : PieceReader.early content = some r) : Stopped content r
  | unreadable (corrupt : content.Corrupt (refused .malformed))
      (first : PieceReader.early content = none) : Stopped content .malformed
  | missed {r : Yaml.Refusal} (misses : content.Misses r) : Stopped content r

/-- Faults of a file of which no more is made. -/
inductive Escapes (content : Content) : Fault → Prop
  | undecodable {f : Text.Utf8.Fault} (failed : content.readPieces = .error f)
      (first : PieceReader.early content = none) : Escapes content (.undecodable f)
  /-- A value in it cannot be, or lies too deep. -/
  | stopped {r : Yaml.Refusal} (stopped : Stopped content r) (formed : r ≠ .malformed) :
      Escapes content (refused r)
  | misnamed {es : List (Yaml.Value × Yaml.Value)} {e : Yaml.Value × Yaml.Value}
      (means : content.Means (.map es)) (member : e ∈ es) (strange : ¬e.1.IsText) :
      Escapes content (.wrongType "keywords must be strings")

theorem Escapes.not_surfaces {content : Content} {f : Fault} (escapes : Escapes content f) :
    ¬Surfaces (.error f) := by
  cases escapes with
  | stopped stopped formed => exact mt refused_surfaces_iff.mp formed
  | undecodable | misnamed => simp [Surfaces]

variable {c : Configuration} {t : FileTree} {content : Content}

theorem contentOf_of_stopped {r : Yaml.Refusal} (stopped : Stopped content r) :
    contentOf content = .error (refused r) := by
  cases stopped with
  | early corrupt early =>
      rw [contentOf_of_corrupt corrupt, early]
      rfl
  | unreadable corrupt first =>
      rw [contentOf_of_corrupt corrupt, first]
      rfl
  | missed misses =>
      obtain ⟨s, holds, readable, read⟩ := misses
      rw [contentOf_of_text (textIn_eq_ok.mpr ⟨holds, readable⟩), read]

theorem load_of_content (there : t.contentAt c.file = .ok content) (overrides : Given) :
    (load t overrides c).1 = (contentOf content).bind (verdict c.file · overrides) := by
  rw [load_eq, said_of_content there]
  cases contentOf content <;> rfl

theorem load_escapes (there : t.contentAt c.file = .ok content) (overrides : Given) {f : Fault}
    (escapes : Escapes content f) : (load t overrides c).1 = .error f := by
  rw [load_of_content there]
  cases escapes with
  | undecodable failed first =>
      rw [contentOf_of_corrupt (.undecodable failed), first]
      rfl
  | stopped stopped =>
      rw [contentOf_of_stopped stopped]
      rfl
  | @misnamed es e means member strange =>
      have counts : (Yaml.Value.map es).counts = true := by
        cases es with
        | nil => cases member
        | cons => rfl
      rw [contentOf_of_means means, if_pos counts]
      rcases outcome_settled es overrides with ⟨texts, -⟩ | ⟨-, failed⟩
      · exact absurd (texts e member) strange
      · exact failed

theorem Stopped.surfaces_or_escapes {r : Yaml.Refusal} (stopped : Stopped content r) :
    Surfaces (.error (refused r)) ∨ ∃ f, Escapes content f := by
  by_cases formed : r = .malformed
  · exact .inl (refused_surfaces_iff.mpr formed)
  · exact .inr ⟨_, .stopped stopped formed⟩

theorem surfaces_or_escapes (there : t.contentAt c.file = .ok content) (overrides : Given) :
    Surfaces (load t overrides c).1 ∨ ∃ f, Escapes content f := by
  have finds := contentOf_finds content
  rw [load_of_content there]
  generalize contentOf content = r at finds
  cases finds with
  | corrupt corrupt first =>
      cases corrupt with
      | undecodable failed => exact .inr ⟨_, .undecodable failed first⟩
      | unreadable holds strange =>
          exact .inl (refused_surfaces_iff.mpr rfl)
  | early corrupt early => exact (Stopped.early corrupt early).surfaces_or_escapes
  | missed misses => exact (Stopped.missed misses).surfaces_or_escapes
  | hollow =>
      have surfaces := surfaces_of (overridden [] overrides)
      rw [← outcome_entries] at surfaces
      exact .inl surfaces
  | @solid v means =>
      cases v with
      | map es =>
          rcases outcome_settled es overrides with ⟨-, surfaces⟩ | ⟨⟨e, member, strange⟩, -⟩
          · exact .inl surfaces
          · exact .inr ⟨_, .misnamed means member strange⟩
      | _ => exact .inl (.inr ⟨_, _, rfl⟩)

end

end Dismantle.Configuration
