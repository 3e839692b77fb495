import Dismantle.Proofs.Host.Ending
import Dismantle.Proofs.Host.Engagement
import Dismantle.Proofs.Json.Access
import Dismantle.Terraform.Tool
/-! The processes that the Terraform program is started as, and what its outputs say. -/
namespace Dismantle.Terraform

/-- A value as text; one that is missing or null is empty. -/
def textOf : Option Json → String
  | none | some .null => ""
  | some v => v.display

def outputNamed (name : String) (outputs : Fields) : String :=
  textOf ((outputs.get? name).bind (·.under "value"))

/-- What the program is told for reading the outputs of a state. -/
def outputCommand : List String := ["output", "-json", "-state=terraform.tfstate"]

/-- A process has succeeded and printed the outputs of a state. -/
structure Prints (l : Launch) (tfState : String) (outputs : Fields) : Prop where
  command : l.Runs outputCommand
  state : l.start.files.get? "terraform.tfstate" = some (.text tfState)
  printed : ∃ output errors, l.reply.ending = .exited 0 output errors ∧
    Json.read (if output = "" then "\x7b\x7d" else output) = .ok (.obj outputs)

namespace Tool

theorem outputText_eq_ok {entry : Json} {s : String} (h : outputText entry = .ok s) :
    s = textOf (entry.under "value") := by
  obtain ⟨v, found, h⟩ := Except.bind_eq_ok h
  obtain ⟨-, rfl⟩ := Json.find_eq_ok found
  generalize entry.under "value" = value at h ⊢
  cases value with
  | none => exact (Except.ok.inj h).symm
  | some v => cases v <;> exact (Except.ok.inj h).symm

theorem lookup_outputTexts {fs : Fields} {found : List (Spelling × String)}
    (h : outputTexts (.obj fs) = .ok found) (name : String) :
    (found.lookup (.plain name)).getD "" = outputNamed name fs := by
  have each := Except.mapM_eq_ok h
  clear h
  induction each with
  | nil => rfl
  | @cons f p fs ps first _ ih =>
      obtain ⟨key, entry⟩ := f
      obtain ⟨s, read, rfl⟩ := Except.map_eq_ok first
      simp only [outputNamed, Fields.get?, List.lookup_cons] at ih ⊢
      split
      · exact outputText_eq_ok read
      · exact ih

theorem readOutput_eq_ok {complaint empty output : String} {v : Json}
    (h : readOutput complaint empty output = .ok v) :
    Json.read (if output = "" then empty else output) = .ok v := by
  unfold readOutput at h
  split at h
  case h_1 read => rw [read, Except.ok.inj h]
  all_goals cases h

theorem readOutput_of_read {complaint empty output : String} {v : Json}
    (read : Json.read (if output = "" then empty else output) = .ok v) :
    readOutput complaint empty output = .ok v := by
  rw [readOutput, read]

theorem outputTexts_isObject {v : Json} {found : List (Spelling × String)}
    (h : outputTexts v = .ok found) : v.IsObject := by
  cases v with
  | obj fs => exact ⟨fs, rfl⟩
  | _ => cases h

/-- The name of the network is an output of the state, as one process has printed it. A state that
is empty has none. -/
theorem environmentOutputs_engages (t : Tool) (tfState : String) (h : Host) :
    (t.environmentOutputs tfState).Engages id h fun es r _ =>
      (es = [] ∧ tfState = "" ∧ ∀ o, r = .ok o → o.networkName = "") ∨
      ∃ l, es = [.launch l] ∧ l.Runs outputCommand ∧ ∀ o, r = .ok o → ∃ outputs,
        Prints l tfState outputs ∧ o.networkName = outputNamed "network_name" outputs := by
  unfold environmentOutputs outputs
  split
  case isTrue empty =>
      refine Act.engages_pure (.inl ⟨rfl, empty, ?_⟩)
      rintro o ⟨⟩
      rfl
  case isFalse =>
      let c := t.command ["output", "-json", stateArgument] true
      have printed : (Host.inWorkspace workspaceName do
          Host.putFile stateFile (.text tfState)
          c.run).Engages id h fun es r _ => ∃ l, es = [.launch l] ∧
            l.start.files.get? "terraform.tfstate" = some (.text tfState) ∧
            l.Runs outputCommand ∧ c.judge l.reply.ending = r := by
        refine Host.engages_inWorkspace (Act.engages_bind (Act.engages_quiet rfl rfl rfl ?_))
        refine c.run_engages fun reply h' _ => ⟨_, rfl, rfl, c.runs ⟨[], rfl⟩, rfl⟩
      refine Act.engages_bind (Act.engages_bind (printed.mono ?_))
      rintro es r h' ⟨l, rfl, state, runs, judged⟩
      cases r with
      | error f => exact .inr ⟨l, rfl, runs, nofun⟩
      | ok result =>
          refine Act.engages_ofExcept ?_
          split
          case h_1 found read =>
              obtain ⟨v, parsed, texts⟩ := Except.bind_eq_ok read
              obtain ⟨fs, rfl⟩ := outputTexts_isObject texts
              refine Act.engages_pure (.inr ⟨l, rfl, runs, ?_⟩)
              rintro o ⟨⟩
              have ended := Command.judge_eq_ok rfl judged
              refine ⟨fs, ⟨runs, state, _, _, ended, ?_⟩, lookup_outputTexts texts _⟩
              exact readOutput_eq_ok parsed
          case h_2 => exact .inr ⟨l, rfl, runs, nofun⟩

theorem version_within (t : Tool) :
    t.version.Within id fun x => ∃ l, x = .launch l ∧ l.Runs ["version"] := by
  refine .bind (Command.run_within _ fun h reply => ⟨_, rfl, ?_⟩) fun r => ?_
  · exact Command.runs _ ⟨[], rfl⟩
  · dsimp only
    split
    · exact Act.within_pure _
    · exact Act.within_fail _

end Tool
end Dismantle.Terraform
