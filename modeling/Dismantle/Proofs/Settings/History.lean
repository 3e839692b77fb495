import Dismantle.Proofs.Settings.Load
/-! Loads that were made before. A load that finds the file goes by that alone; one that finds none
goes by the document that was read last, and by no entries only where none was read. -/
namespace Dismantle.Configuration
open Settings

section
variable [Limits] [PieceReader]

def document? (t : FileTree) (p : Path) : Option Yaml.Value := (said t p).bind Except.toOption

def memory (p : Path) (history : List Occasion) : Yaml.Value :=
  (history.reverse.findSome? fun o => document? o.tree p).getD (.map [])

section
variable (c : Configuration) (history : List Occasion)

@[simp] theorem after_file : (c.after history).file = c.file := by
  induction history generalizing c with
  | nil => rfl
  | cons o later ih => rw [after, ih, loadAt, load_file]

theorem after_data : (c.after history).data =
    (history.reverse.findSome? fun o => document? o.tree c.file).getD c.data := by
  induction history generalizing c with
  | nil => rfl
  | cons o later ih =>
      rw [after, ih, loadAt, load_file, load_data, List.reverse_cons, List.findSome?_append]
      cases later.reverse.findSome? fun o => document? o.tree c.file with
      | some v => rfl
      | none =>
          rw [Option.none_or, List.findSome?_cons, ← document?]
          cases document? o.tree c.file <;> rfl

end

section
variable {c c' : Configuration} {o : Occasion}

theorem loadAt_of_found (same : c.file = c'.file) (found : o.tree.has c.file = true) :
    (c.loadAt o).1 = (c'.loadAt o).1 := by
  have there : ∃ r, said o.tree c.file = some r := ⟨_, if_pos found⟩
  obtain ⟨r, there⟩ := there
  rw [loadAt, loadAt, load_eq, load_eq, ← same, there]
  cases r <;> rfl

theorem loadAt_of_missing (missing : o.tree.has c.file = false) :
    (c.loadAt o).1 = outcome c.data o.overrides := by
  have none : said o.tree c.file = none := if_neg (ne_true_of_eq_false missing)
  rw [loadAt, load_eq, none]

theorem loadAt_of_map {es : List (Yaml.Value × Yaml.Value)}
    (read : said o.tree c.file = some (.ok (.map es))) :
    (c.loadAt o).1 = outcome (.map es) o.overrides := by
  rw [loadAt, load_eq, read]
  rfl

end

/-- A load after others comes to what it would come to alone, if the file is there; if not, it comes
to what is made of the document that was read last, as if the file still held that. -/
theorem load_remembers (p : Path) (history : List Occasion) (o : Occasion) :
    (o.tree.has p = true →
        ((after { file := p } history).loadAt o).1 = (loadAt { file := p } o).1) ∧
      (o.tree.has p = false →
        ((after { file := p } history).loadAt o).1 = outcome (memory p history) o.overrides ∧
        (loadAt { file := p } o).1 = Settings.of (overridden [] o.overrides) ∧
        (memory p history = .map [] →
          ((after { file := p } history).loadAt o).1 = (loadAt { file := p } o).1) ∧
        ∀ t es, said t p = some (.ok (.map es)) → memory p history = .map es →
          ((after { file := p } history).loadAt o).1 = (loadAt { file := p } ⟨t, o.overrides⟩).1) := by
  have file : (after { file := p } history).file = p := after_file _ history
  refine ⟨fun found => loadAt_of_found file (file.symm ▸ found), fun missing => ?_⟩
  have kept : ((after { file := p } history).loadAt o).1 = outcome (memory p history) o.overrides := by
    rw [loadAt_of_missing (file.symm ▸ missing), after_data]
    rfl
  have alone : (loadAt { file := p } o).1 = outcome (.map []) o.overrides := loadAt_of_missing missing
  refine ⟨kept, alone.trans (outcome_entries [] _), fun nothing => ?_, fun t es read same => ?_⟩
  · rw [kept, alone, nothing]
  · rw [kept, same, loadAt_of_map (show said t p = _ from read)]

end

/-- The file is gone, and what was read of it counts. -/
theorem load_remembers_gone :
    let written : Occasion := ⟨holding lake (.text "log_level: debug\n"), []⟩
    let gone : Occasion := ⟨⟨[]⟩, []⟩
    gone.tree.has lake = false ∧
      ((after { file := lake } [written]).loadAt gone).1 = outcome (memory lake [written]) [] :=
  ⟨rfl, ((load_remembers lake [_] _).2 rfl).1⟩

/-- A load, and another one when the file is gone. -/
theorem load_not_forgetful :
    let written : Occasion := ⟨holding lake (.text "log_level: debug\n"), []⟩
    let gone : Occasion := ⟨⟨[]⟩, []⟩
    gone.tree.has lake = false ∧ (loadAt { file := lake } gone).1 = .ok {} ∧
      ((after { file := lake } [written]).loadAt gone).1 = .ok { logLevel := "debug" } := by
  intro written gone
  have read : Yaml.Value.read Limits.reading "log_level: debug\n".toList =
      .ok (.ofTexts [("log_level", "debug")]) := by decide +kernel
  have found : said written.tree lake = some (.ok (.map [(.str "log_level", .str "debug")])) :=
    (said_of_content rfl).trans
      (congrArg some (contentOf_of_means ⟨_, Content.read_eq_ok.mp rfl, read⟩))
  have kept : (after { file := lake } [written]).data = .map [(.str "log_level", .str "debug")] := by
    rw [after_data, List.reverse_singleton, List.findSome?_cons, document?, found]
    rfl
  refine ⟨rfl, ?_, ?_⟩
  · rw [loadAt_of_missing rfl]
    rfl
  · rw [loadAt_of_missing (by rw [after_file]; rfl), kept]
    rfl

end Dismantle.Configuration
