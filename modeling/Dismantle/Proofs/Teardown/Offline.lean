import Dismantle.Teardown.Site
/-! Calls that no service hears of: files, the console, and programs that are run. -/
namespace Dismantle

namespace Act
variable {σ τ α β : Type} {part : σ → τ}

/-- From wherever it starts, an act leaves a part of the state as it is. -/
def Spares (part : σ → τ) (act : Act σ α) : Prop := ∀ s, part (act s).2 = part s

namespace Spares

theorem pure (a : α) : (Pure.pure a : Act σ α).Spares part := fun _ => rfl

theorem fail (f : Fault) : (Act.fail f : Act σ α).Spares part := fun _ => rfl

theorem ofExcept (r : Except Fault α) : (Act.ofExcept r : Act σ α).Spares part := fun _ => rfl

theorem modify {f : σ → σ} (h : ∀ s, part (f s) = part s) : (Act.modify f).Spares part := h

theorem attempt {act : Act σ α} (h : act.Spares part) : act.attempt.Spares part := h

theorem bind {act : Act σ α} {next : α → Act σ β} (h : act.Spares part)
    (hn : ∀ a, (next a).Spares part) : (act >>= next).Spares part := by
  intro s
  have first := h s
  rw [bind_apply]
  revert first
  rcases act s with ⟨f | a, s'⟩
  · exact id
  · exact fun first => (hn a s').trans first

end Spares
end Act

/-- The act leaves services alone. -/
def Act.Offline {α : Type} (act : Act Host α) : Prop := act.Spares Host.cloud

open Act (Offline Spares)

namespace Host
variable {α : Type}

theorem note_offline (level : Log.Level) (logger message : String) :
    (note level logger message).Offline := Spares.modify fun _ => rfl

theorem change_offline (step : FileTree → Except SystemFault FileTree) (f : SystemFault → Fault) :
    (change step f).Offline := by
  intro h
  unfold change
  split <;> rfl

theorem makeDirectories_offline (p : Path) : (makeDirectories p).Offline := fun _ => rfl

theorem readLine_offline : readLine.Offline := by
  intro h
  unfold readLine
  split <;> rfl

theorem inWorkspace_offline {name : String} {act : Act Host α} (h : act.Offline) :
    (inWorkspace name act).Offline := fun host => h { host with workspace := some { name } }

theorem putFile_offline (name : String) (c : Content) : (putFile name c).Offline :=
  Spares.modify fun _ => rfl

theorem writeText_offline (name : String) (s : Spelling) : (writeText name s).Offline := by
  unfold writeText
  split
  · exact putFile_offline _ _
  · exact .fail _

end Host

theorem Command.launch_offline (c : Command) : c.launch.Offline := by
  intro h
  simp only [launch, Host.takeReply]
  cases h.replies <;> cases c.inWorkspace <;> rfl

theorem Command.run_offline (c : Command) : c.run.Offline :=
  .bind (Host.note_offline _ _ _) fun _ => .bind c.launch_offline fun _ => .ofExcept _

theorem Console.print_offline (limit : Nat) (ending markup : String) :
    (print limit ending markup).Offline :=
  .bind (.ofExcept _) fun _ => .modify fun _ => rfl

namespace Store

theorem validate_offline (s : Store) (e : Environment) : (s.validate e).Offline := by
  intro h
  unfold validate
  split
  · rfl
  · split <;> rfl

theorem remove_offline (s : Store) : s.remove.Offline := by
  intro h
  unfold remove
  split
  · exact Spares.bind (Host.change_offline _ _) (fun _ => Host.note_offline _ _ _) h
  · rfl

theorem save_offline (s : Store) (e : Environment) : (s.save e).Offline := by
  unfold save
  split
  · exact s.remove_offline
  · refine .bind (Host.makeDirectories_offline _) fun _ => .bind (Host.change_offline _ _) fun _ => ?_
    refine .bind (.ofExcept _) fun _ => .bind (Host.change_offline _ _) fun _ => ?_
    exact Host.note_offline _ _ _

end Store

theorem Credentials.checkGcp_offline (g : GcpAccount) : (checkGcp g).Offline :=
  .bind (.ofExcept _) fun _ => .bind (.ofExcept _) fun _ => Host.note_offline _ _ _

namespace Terraform.Tool
variable (t : Tool)

theorem version_offline : t.version.Offline := by
  refine .bind (Command.run_offline _) fun r => ?_
  dsimp only
  split
  · exact .pure _
  · exact .fail _

theorem readState_offline (fallback : String) : (readState fallback).Offline := by
  intro h
  unfold readState
  split <;> rfl

theorem destroy_offline (d : Teardown.Destruction) : (t.destroy d).Offline := by
  have commands : (t.destroyCommands d).Offline :=
    .bind (Command.run_offline _) fun _ => .bind (Command.run_offline _) fun _ => .pure ()
  refine Host.inWorkspace_offline (.bind (Host.writeText_offline _ _) fun _ => ?_)
  refine .bind (Host.writeText_offline _ _) fun _ => ?_
  dsimp only
  split
  case' isTrue => refine .bind (Host.writeText_offline _ _) fun _ => ?_
  all_goals
    refine .bind (.attempt commands) fun r => ?_
    split
    · split
      · exact .bind (readState_offline _) fun _ => .fail _
      · exact .fail _
    · exact .bind (Host.note_offline _ _ _) fun _ => readState_offline _

theorem outputs_offline (tfState : String) : (t.outputs tfState).Offline := by
  unfold outputs
  split
  · exact .pure []
  · refine .bind (Host.inWorkspace_offline ?_) fun _ => .ofExcept _
    exact .bind (Host.putFile_offline _ _) fun _ => Command.run_offline _

end Terraform.Tool

namespace Bosh.Tool

theorem readFrom_offline (complaint name : String) : (readFrom complaint name).Offline := by
  intro h
  unfold readFrom
  split
  · rfl
  · exact Spares.bind (Host.note_offline _ _ _) (fun _ => .pure _) h

theorem stateLeft_offline (known : Fields) : (stateLeft known).Offline := by
  refine .bind (readFrom_offline _ _) fun text => ?_
  split
  · exact .pure _
  · split
    · exact .pure _
    · exact .pure _
    · exact .bind (Host.note_offline _ _ _) fun _ => .pure _
    · exact .fail _

theorem credentialsLeft_offline (known : Yaml.Entries) : (credentialsLeft known).Offline := by
  refine .bind (readFrom_offline _ _) fun text => ?_
  split
  · exact .pure _
  · split
    · exact .bind (Host.note_offline _ _ _) fun _ => .pure _
    · exact .fail _
    · exact .fail _
    · split
      · exact .pure _
      · split
        · exact .ofExcept _
        · exact .bind (Host.note_offline _ _ _) fun _ => .pure _

theorem environmentLeft_offline (e : Environment) : (environmentLeft e).Offline :=
  .bind (.ofExcept _) fun _ =>
    .bind (stateLeft_offline _) fun _ => .bind (credentialsLeft_offline _) fun _ => .pure _

theorem delete_offline (t : Tool) (e : Environment) : (t.delete e).Offline := by
  unfold delete
  dsimp only
  split
  · exact .fail _
  · refine .bind (Host.inWorkspace_offline ?_) fun _ => Host.note_offline _ _ _
    refine .bind (Host.putFile_offline _ _) fun _ => .bind (.ofExcept _) fun _ => ?_
    refine .bind (Host.putFile_offline _ _) fun _ => .bind (.ofExcept _) fun _ => ?_
    refine .bind (Host.putFile_offline _ _) fun _ => ?_
    refine .bind (.attempt (Command.run_offline _)) fun r => ?_
    split
    · exact .pure ()
    · split
      · exact .bind (environmentLeft_offline e) fun _ => .fail _
      · exact .fail _

end Bosh.Tool

namespace Gcloud
variable (t : Tool)

theorem Tool.query_offline (arguments : List String) : (t.query arguments).Offline :=
  .bind (Command.run_offline _) fun _ => .ofExcept _

theorem checkNetwork_offline (network : String) : (checkNetwork t network).Offline := by
  unfold checkNetwork
  split
  · exact Host.note_offline _ _ _
  · exact .bind (.bind (t.query_offline _) fun _ => .pure _) fun _ => .ofExcept _

theorem deleteKey_offline (publicKey : String) : (deleteKey t publicKey).Offline := by
  unfold deleteKey
  dsimp only
  split
  · exact Host.note_offline _ _ _
  · refine .bind (.bind (t.query_offline _) fun _ => .ofExcept _) fun metadata => ?_
    refine .bind (.ofExcept _) fun value => ?_
    split
    · exact Host.note_offline _ _ _
    · split
      · exact .bind (.bind (Command.run_offline _) fun _ => .pure ()) fun _ => Host.note_offline _ _ _
      · refine .bind (.bind (.ofExcept _) fun _ => ?_) fun _ => Host.note_offline _ _ _
        exact .bind (Command.run_offline _) fun _ => .pure ()

end Gcloud

namespace Teardown

def Call.isOnline : Call → Bool
  | .validateAws _ | .describeStack _ | .checkVpc _ | .deleteStack _ | .deleteCertificate _
  | .deleteAwsKeyPair _ => true
  | _ => false

/-- What a site has to do with services: what they are asked, and whose sessions they are asked in. -/
def Site.online (s : Site) : Cloud × Aws.Manager := (s.desk.host.cloud, s.desk.manager)

theorem Site.onHost_offline {α : Type} {act : Act Host α} (h : act.Offline) (tags : Log.Tags) :
    (onHost tags act).Spares online :=
  fun _ => congrArg (·, _) (h _)

theorem Site.save_offline (s : Site) (e : Environment) : (s.save e).Offline :=
  .bind (.ofExcept _) fun _ => s.store.save_offline _

theorem Site.deleteDirector_offline (s : Site) (e : Environment) : (s.deleteDirector e).Offline := by
  refine .bind (.attempt (s.bosh.delete_offline e)) fun r => ?_
  split
  · split
    · exact .fail _
    · exact .bind (Host.note_offline _ _ _) fun _ => .fail _
  · exact .ofExcept _

theorem Site.reply_offline (s : Site) (tags : Log.Tags) {c : Call} (offline : c.isOnline = false) :
    (s.reply tags c).Spares online := by
  cases c with
  | validateAws | describeStack | checkVpc | deleteStack | deleteCertificate | deleteAwsKeyPair =>
      cases offline
  | validateRecord e => exact onHost_offline (s.store.validate_offline e) tags
  | save e => exact onHost_offline (s.save_offline e) tags
  | prompt text =>
      have asks : (Console.ask s.width text).Offline :=
        .bind (Console.print_offline _ _ _) fun _ => Host.readLine_offline
      exact onHost_offline asks tags
  | step text => exact onHost_offline (Console.print_offline _ _ _) tags
  | note text => exact onHost_offline (Console.print_offline _ _ _) tags
  | terraformVersion => exact onHost_offline s.terraform.version_offline tags
  | validateGcp g => exact onHost_offline (Credentials.checkGcp_offline g) tags
  | deleteDirector e => exact onHost_offline (s.deleteDirector_offline e) tags
  | terraformOutputs e =>
      have outputs : (s.terraform.environmentOutputs e.tfState).Offline :=
        .bind (s.terraform.outputs_offline _) fun _ => .pure _
      exact onHost_offline outputs tags
  | checkNetwork name => exact onHost_offline (Gcloud.checkNetwork_offline s.gcloud _) tags
  | terraformDestroy d => exact onHost_offline (s.terraform.destroy_offline d) tags
  | deleteGcpKeyPair key => exact onHost_offline (Gcloud.deleteKey_offline s.gcloud key) tags

end Teardown
end Dismantle
