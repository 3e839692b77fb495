import Dismantle.Host.Command
import Dismantle.Proofs.Host.Contact
/-! Acts by the contacts that they make. -/
namespace Dismantle

namespace Act
variable {σ α β : Type}

/-- An act that starts from `s` makes contacts, ends and leaves a state as `Q` says. `host` finds
the host that a state works on. -/
def Engages (host : σ → Host) (act : Act σ α) (s : σ)
    (Q : List Contact → Except Fault α → σ → Prop) : Prop :=
  ∃ es, (host s).Contacts es (host (act s).2) ∧ Q es (act s).1 (act s).2

variable {host : σ → Host} {s : σ} {Q : List Contact → Except Fault α → σ → Prop}

theorem Engages.mono {act : Act σ α} {R : List Contact → Except Fault α → σ → Prop}
    (h : act.Engages host s Q) (imp : ∀ es r s', Q es r s' → R es r s') :
    act.Engages host s R := by
  obtain ⟨es, contacts, q⟩ := h
  exact ⟨es, contacts, imp _ _ _ q⟩

theorem Engages.result {act : Act σ α} (h : act.Engages host s Q) :
    act.Engages host s fun es r s' => Q es r s' ∧ (act s).1 = r := by
  obtain ⟨es, contacts, q⟩ := h
  exact ⟨es, contacts, q, rfl⟩

theorem engages_quiet {act : Act σ α} (cloud : (host (act s).2).cloud = (host s).cloud)
    (starts : (host (act s).2).starts = (host s).starts)
    (replies : (host (act s).2).replies = (host s).replies) (h : Q [] (act s).1 (act s).2) :
    act.Engages host s Q := ⟨[], .quiet cloud starts replies, h⟩

theorem engages_pure {a : α} (h : Q [] (.ok a) s) : (pure a : Act σ α).Engages host s Q :=
  engages_quiet rfl rfl rfl h

theorem engages_fail {f : Fault} (h : Q [] (.error f) s) : (fail f : Act σ α).Engages host s Q :=
  engages_quiet rfl rfl rfl h

theorem engages_ofExcept {r : Except Fault α} (h : Q [] r s) : (ofExcept r).Engages host s Q :=
  engages_quiet rfl rfl rfl h

theorem engages_attempt {act : Act σ α} {Q : List Contact → Except Fault (Except Fault α) → σ → Prop}
    (h : act.Engages host s fun es r => Q es (.ok r)) : act.attempt.Engages host s Q := h

theorem engages_mapFault {act : Act σ α} {f : Fault → Fault}
    (h : act.Engages host s fun es r => Q es (r.mapError f)) :
    (act.mapFault f).Engages host s Q := h

theorem engages_bind {act : Act σ α} {next : α → Act σ β}
    {Q : List Contact → Except Fault β → σ → Prop}
    (h : act.Engages host s fun es r s' => match r with
      | .ok a => (next a).Engages host s' fun es' => Q (es ++ es')
      | .error f => Q es (.error f) s') : (act >>= next).Engages host s Q := by
  obtain ⟨es, contacts, q⟩ := h
  unfold Engages
  rw [bind_apply]
  revert contacts q
  rcases act s with ⟨f | a, s'⟩
  · exact fun contacts q => ⟨es, contacts, q⟩
  · rintro contacts ⟨es', contacts', q⟩
    exact ⟨es ++ es', contacts.append contacts', q⟩

/-- From wherever it starts, an act makes no contacts but those in `C`. -/
def Within (host : σ → Host) (act : Act σ α) (C : Contact → Prop) : Prop :=
  ∀ s, act.Engages host s fun es _ _ => ∀ x ∈ es, C x

variable {C : Contact → Prop}

theorem within_quiet {act : Act σ α} (cloud : ∀ s, (host (act s).2).cloud = (host s).cloud)
    (starts : ∀ s, (host (act s).2).starts = (host s).starts)
    (replies : ∀ s, (host (act s).2).replies = (host s).replies) : act.Within host C :=
  fun s => engages_quiet (cloud s) (starts s) (replies s) (List.forall_mem_nil _)

theorem within_pure (a : α) : (pure a : Act σ α).Within host C :=
  fun _ => engages_pure (List.forall_mem_nil _)

theorem within_fail (f : Fault) : (fail f : Act σ α).Within host C :=
  fun _ => engages_fail (List.forall_mem_nil _)

theorem within_ofExcept (r : Except Fault α) : (ofExcept r : Act σ α).Within host C :=
  fun _ => engages_ofExcept (List.forall_mem_nil _)

namespace Within

/-- Contacts beside what else is known of an act. -/
theorem engages {act : Act σ α} (h : act.Within host C) (s : σ) :
    act.Engages host s fun es r s' => (∀ x ∈ es, C x) ∧ act s = (r, s') := by
  obtain ⟨es, contacts, inside⟩ := h s
  exact ⟨es, contacts, inside, rfl⟩

theorem attempt {act : Act σ α} (h : act.Within host C) : act.attempt.Within host C :=
  fun s => engages_attempt (h s)

theorem bind {act : Act σ α} {next : α → Act σ β} (h : act.Within host C)
    (hn : ∀ a, (next a).Within host C) : (act >>= next).Within host C := by
  intro s
  refine engages_bind ((h s).mono ?_)
  rintro es (f | a) s' inside
  · exact inside
  · exact (hn a s').mono fun es' r s'' inside' => List.forall_mem_append.mpr ⟨inside, inside'⟩

end Within

/-- From wherever it starts, an act makes no contacts and succeeds. -/
def Quiet (host : σ → Host) (act : Act σ α) : Prop :=
  ∀ s, act.Engages host s fun es r _ => es = [] ∧ ∃ a, r = .ok a

theorem quiet_pure (a : α) : (pure a : Act σ α).Quiet host :=
  fun _ => engages_pure ⟨rfl, a, rfl⟩

theorem quiet_get : (get : Act σ σ).Quiet host :=
  fun s => engages_quiet rfl rfl rfl ⟨rfl, s, rfl⟩

theorem quiet_modify {f : σ → σ} (cloud : ∀ s, (host (f s)).cloud = (host s).cloud)
    (starts : ∀ s, (host (f s)).starts = (host s).starts)
    (replies : ∀ s, (host (f s)).replies = (host s).replies) : (modify f).Quiet host :=
  fun s => engages_quiet (cloud s) (starts s) (replies s) ⟨rfl, (), rfl⟩

namespace Quiet

theorem within {act : Act σ α} (h : act.Quiet host) : act.Within host C := by
  intro s
  refine (h s).mono ?_
  rintro es r s' ⟨rfl, -⟩
  exact List.forall_mem_nil _

theorem engages_bind {act : Act σ α} {next : α → Act σ β}
    {Q : List Contact → Except Fault β → σ → Prop} (h : act.Quiet host)
    (hn : ∀ a s', (next a).Engages host s' Q) : (act >>= next).Engages host s Q := by
  refine Act.engages_bind ((h s).mono ?_)
  rintro es r s' ⟨rfl, a, rfl⟩
  exact hn a s'

theorem bind {act : Act σ α} {next : α → Act σ β} (h : act.Quiet host)
    (hn : ∀ a, (next a).Quiet host) : (act >>= next).Quiet host :=
  fun _ => h.engages_bind fun a s' => hn a s'

end Quiet
end Act

namespace Host
variable {α : Type} {C : Contact → Prop}

theorem note_quiet (level : Log.Level) (logger message : String) :
    (note level logger message).Quiet id :=
  Act.quiet_modify (fun _ => rfl) (fun _ => rfl) fun _ => rfl

theorem show_quiet (text : String) : (show_ text).Quiet id :=
  Act.quiet_modify (fun _ => rfl) (fun _ => rfl) fun _ => rfl

theorem change_within (step : FileTree → Except SystemFault FileTree) (f : SystemFault → Fault) :
    (change step f).Within id C := by
  refine Act.within_quiet ?_ ?_ ?_ <;> intro h <;> simp only [change, id_eq] <;> split <;> rfl

theorem makeDirectories_within (p : Path) : (makeDirectories p).Within id C := by
  refine Act.within_quiet ?_ ?_ ?_ <;> intro h <;> simp only [makeDirectories, id_eq]

theorem readLine_within : readLine.Within id C := by
  refine Act.within_quiet ?_ ?_ ?_ <;> intro h <;> simp only [readLine, id_eq] <;> split <;> rfl

theorem engages_inWorkspace {name : String} {act : Act Host α} {h : Host}
    {Q : List Contact → Except Fault α → Host → Prop}
    (engages : act.Engages id { h with workspace := some { name } } fun es r after =>
      Q es r { after with workspace := h.workspace }) :
    (inWorkspace name act).Engages id h Q := by
  obtain ⟨es, contacts, q⟩ := engages
  exact ⟨es, contacts.framed rfl rfl rfl rfl rfl rfl, q⟩

end Host

namespace Command

/-- The workspace once a program has worked there, if it works there. -/
def left (c : Command) (reply : ProcessReply) (w : Option Workspace) : Option Workspace :=
  if c.inWorkspace then w.map fun w => { w with files := reply.change w.files } else w

theorem launch_engages (c : Command) {h : Host}
    {Q : List Contact → Except Fault ProcessEnding → Host → Prop}
    (q : ∀ reply h', h'.workspace = c.left reply h.workspace →
      Q [.launch ⟨c.start h, reply⟩] (.ok reply.ending) h') :
    c.launch.Engages id h Q := by
  let reply := (c.start h).outcome (h.replies.headD {})
  have ended : (c.launch h).1 = .ok reply.ending := by
    simp only [launch, Host.takeReply, reply]
    cases h.replies <;> rfl
  have contacts : h.Contacts [.launch ⟨c.start h, reply⟩] (c.launch h).2 := by
    refine .launch ?_ ?_ ?_
    all_goals
      simp only [launch, Host.takeReply]
      cases h.replies <;> cases c.inWorkspace <;> rfl
  have workspace : (c.launch h).2.workspace = c.left reply h.workspace := by
    simp only [launch, Host.takeReply, left, reply]
    cases h.replies <;> cases c.inWorkspace <;> rfl
  refine ⟨_, contacts, ?_⟩
  rw [ended]
  exact q _ _ workspace

/-- A program is started once, and judged by how it ends. -/
theorem run_engages (c : Command) {h : Host}
    {Q : List Contact → Except Fault CommandResult → Host → Prop}
    (q : ∀ reply h', h'.workspace = c.left reply h.workspace →
      Q [.launch ⟨c.start h, reply⟩] (c.judge reply.ending) h') :
    c.run.Engages id h Q := by
  have noted : (Host.note Log.debug logger ("Running: " ++ c.line)).Engages id h
      fun es r h' => es = [] ∧ r = .ok () ∧ c.start h' = c.start h ∧ h'.workspace = h.workspace :=
    Act.engages_quiet rfl rfl rfl ⟨rfl, rfl, rfl, rfl⟩
  refine Act.engages_bind (noted.mono ?_)
  rintro es r h' ⟨rfl, rfl, same, workspace⟩
  refine Act.engages_bind (c.launch_engages fun reply h'' left => ?_)
  refine Act.engages_ofExcept ?_
  rw [workspace] at left
  rw [same]
  exact q reply h'' left

theorem run_within (c : Command) {C : Contact → Prop}
    (inside : ∀ h reply, C (.launch ⟨c.start h, reply⟩)) : c.run.Within id C :=
  fun h => c.run_engages fun reply _ _ => List.forall_mem_singleton.mpr (inside h reply)

theorem runs (c : Command) {h : Host} {reply : ProcessReply} {command : List String}
    (begins : command <+: c.arguments.tail) : Launch.Runs ⟨c.start h, reply⟩ command := begins

end Command
end Dismantle
