import Dismantle.Proofs.Teardown.Exchange
import Dismantle.Teardown.Rehearsal
import Dismantle.Teardown.Run
/-! A rehearsal notes the calls of its history, and keeps the record that the history saved last. -/
namespace Dismantle.Teardown

namespace Stage
variable {α : Type} (script : Script) (tags : Log.Tags)

theorem validate_kept (e : Environment) (s : Stage) : (validate tags e s).2.kept = s.kept := by
  unfold validate
  split <;> rfl

theorem validate_calls (e : Environment) (s : Stage) : (validate tags e s).2.calls = s.calls := by
  unfold validate
  split <;> rfl

theorem save_kept (e : Environment) (s : Stage) : (save script tags e s).2.kept =
    (Exchange.saved ⟨.save e, (save script tags e s).1⟩).getD s.kept := by
  unfold save
  dsimp only
  split
  · rfl
  split
  · rfl
  case h_2 f failed =>
      split at failed
      · rfl
      · cases failed

theorem save_calls (e : Environment) (s : Stage) : (save script tags e s).2.calls = s.calls := by
  unfold save
  dsimp only
  split
  · rfl
  split <;> split <;> rfl

theorem answer_kept (c : Call) (s : Stage) : (answer script tags c s).2.kept =
    (Exchange.saved ⟨c, (answer script tags c s).1⟩).getD s.kept := by
  unfold answer
  dsimp only
  split
  · cases c <;> rfl
  · cases c with
    | save e => exact save_kept script tags e { s with calls := s.calls ++ [.save e] }
    | validateRecord e =>
        exact validate_kept tags e { s with calls := s.calls ++ [.validateRecord e] }
    | _ => rfl

theorem answer_calls (c : Call) (s : Stage) :
    (answer script tags c s).2.calls = s.calls ++ [c] := by
  unfold answer
  dsimp only
  split
  · rfl
  · cases c with
    | save e => exact save_calls script tags e { s with calls := s.calls ++ [.save e] }
    | validateRecord e =>
        exact validate_calls tags e { s with calls := s.calls ++ [.validateRecord e] }
    | _ => rfl

theorem perform_calls (p : Program α) (s : Stage) :
    (p.perform (handler script) s).2.calls =
      s.calls ++ (p.history (handler script) s).map (·.call) := by
  induction p generalizing s with
  | done a => exact (List.append_nil _).symm
  | log r next ih => exact ih _
  | call tags c next ih =>
      refine (ih _ _).trans ?_
      refine (congrArg (· ++ _) (answer_calls script tags c s)).trans ?_
      exact List.append_assoc ..

/-- A rehearsal keeps the record that its history saved last. -/
theorem perform_kept (p : Program α) (s : Stage) :
    (p.perform (handler script) s).2.kept =
      Teardown.kept s.kept (p.history (handler script) s) := by
  induction p generalizing s with
  | done a => rfl
  | log r next ih => exact ih _
  | call tags c next ih =>
      refine (ih _ _).trans ?_
      exact congrArg (Teardown.kept · _) (answer_kept script tags c s)

end Stage

def rehearsed (script : Script) (e : Environment) : List Exchange :=
  (run Provider.all ["-n"] { env := e }).history (Stage.handler script) { kept := e }

def missing : Script where
  fault
    | .describeStack name => some (.missingStack name)
    | _ => none

/-- Half of the director is left when deleting it fails. -/
def halfway : Script where
  fault
    | .deleteDirector _ =>
      some (.directorLeft { director := { name := "half" } } (.plain .timeout "timed out"))
    | _ => none

end Dismantle.Teardown
