import Dismantle.Proofs.Teardown.Episode
/-! Infrastructure is not destroyed while instances are attached to its network, and the key in the
project's metadata outlives it. -/
namespace Dismantle.Teardown

/-- What the network of a recorded state is called: the text of its output, empty where there is no
state, no output or no value. -/
inductive NetworkName (tfState : String) (earlier : List Launch) : String → Prop where
  | stateless : tfState = "" → NetworkName tfState earlier ""
  | printed (l : Launch) (outputs : Fields) : l ∈ earlier → Terraform.Prints l tfState outputs →
      NetworkName tfState earlier (Terraform.outputNamed "network_name" outputs)

/-- The state names no network, or a listing of all instances has shown none that is attached to
the network. -/
inductive Destroyable (tfState : String) (earlier : List Launch) : Prop where
  | unnamed : NetworkName tfState earlier "" → Destroyable tfState earlier
  | unused (name : String) (l : Launch) : NetworkName tfState earlier name → l ∈ earlier →
      Gcloud.Unused name l → Destroyable tfState earlier

/-- Processes that destroy infrastructure or remove keys come behind what makes them safe. -/
structure NetworkSafe (start : Environment) (xs : List (Episode Site)) : Prop where
  infrastructure : ∀ before x after, xs = before ++ x :: after → ∀ l ∈ x.launches,
    l.Runs ["init"] ∨ l.Runs ["destroy"] →
      Destroyable start.tfState (before.flatMap (·.launches))
  key : ∀ before x after, xs = before ++ x :: after → ∀ l ∈ x.launches,
    l.Runs ["compute", "project-info"] → ∃ d ∈ before.flatMap (·.launches), d.Runs ["destroy"] ∧
      ∃ output errors, d.reply.ending = .exited 0 output errors

theorem Call.starting {c : Call} {l : Launch} (started : ∃ command ∈ c.commands, l.Runs command)
    {wanted : List String} (runs : l.Runs wanted) :
    ∃ command ∈ c.commands, command <+: wanted ∨ wanted <+: command := by
  obtain ⟨command, member, ran⟩ := started
  exact ⟨command, member, List.prefix_or_prefix_of_prefix ran runs⟩

theorem Call.eq_terraformDestroy {c : Call} {l : Launch}
    (started : ∃ command ∈ c.commands, l.Runs command)
    (runs : l.Runs ["init"] ∨ l.Runs ["destroy"]) : ∃ d, c = .terraformDestroy d := by
  cases c with
  | terraformDestroy d => exact ⟨d, rfl⟩
  | terraformVersion | deleteDirector | terraformOutputs | checkNetwork | deleteGcpKeyPair =>
      rcases runs with runs | runs
      all_goals simpa [commands, Terraform.outputCommand, Gcloud.listCommand] using starting started runs
  | _ => simp [commands] at started

theorem Call.eq_deleteGcpKeyPair {c : Call} {l : Launch}
    (started : ∃ command ∈ c.commands, l.Runs command)
    (runs : l.Runs ["compute", "project-info"]) : ∃ key, c = .deleteGcpKeyPair key := by
  cases c with
  | deleteGcpKeyPair key => exact ⟨key, rfl⟩
  | terraformVersion | deleteDirector | terraformOutputs | checkNetwork | terraformDestroy =>
      simpa [commands, Terraform.outputCommand, Gcloud.listCommand] using starting started runs
  | _ => simp [commands] at started

section
variable {start : Environment} {before : List (Episode Site)}

theorem networkName (answered : ∀ y ∈ before, y.Answered) {e : Environment} {outputs : Outputs}
    (asked : ⟨.terraformOutputs e, .ok outputs⟩ ∈ before.map (·.exchange)) :
    NetworkName e.tfState (before.flatMap (·.launches)) outputs.networkName := by
  obtain ⟨es, shown, -, launches⟩ := Episode.contacts_of_mem answered asked fun s tags now =>
    Site.onHost_engages (s.terraform.environmentOutputs_engages e.tfState) tags now
  rcases shown with ⟨-, none, unnamed⟩ | ⟨l, rfl, -, printed⟩
  · rw [unnamed outputs rfl]
    exact .stateless none
  · obtain ⟨fs, prints, same⟩ := printed outputs rfl
    rw [same]
    exact .printed l fs (launches l List.mem_cons_self) prints

theorem destroyable (answered : ∀ y ∈ before, y.Answered) {e : Environment} {outputs : Outputs}
    (asked : ⟨.terraformOutputs e, .ok outputs⟩ ∈ before.map (·.exchange))
    (checked : ⟨.checkNetwork outputs.networkName, .ok ()⟩ ∈ before.map (·.exchange)) :
    Destroyable e.tfState (before.flatMap (·.launches)) := by
  have named := networkName answered asked
  obtain ⟨es, passed, -, launches⟩ := Episode.contacts_of_mem answered checked fun s tags now =>
    Site.onHost_engages (Gcloud.checkNetwork_engages s.gcloud outputs.networkName) tags now
  rcases passed with ⟨-, none⟩ | ⟨l, rfl, -, unused⟩
  · rw [none] at named
    exact .unnamed named
  · exact .unused _ l named (launches l List.mem_cons_self) (unused rfl)

theorem destroyed_mem (answered : ∀ y ∈ before, y.Answered) {d : Destruction} {tfState : String}
    (done : ⟨.terraformDestroy d, .ok tfState⟩ ∈ before.map (·.exchange)) :
    ∃ l ∈ before.flatMap (·.launches), l.Runs ["destroy"] ∧
      ∃ output errors, l.reply.ending = .exited 0 output errors := by
  obtain ⟨es, destroys, -, launches⟩ := Episode.contacts_of_mem answered done fun s tags now =>
    Site.onHost_engages (s.terraform.destroy_engages d) tags now
  obtain ⟨l, among, runs, ended⟩ := destroys.ended ⟨tfState, rfl⟩
  exact ⟨l, launches l among, runs, ended⟩

end

end Dismantle.Teardown
