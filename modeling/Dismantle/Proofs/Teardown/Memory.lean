import Dismantle.Proofs.Teardown.Orderly
/-! What a run leaves in memory, against what it has saved. They can differ by one exchange that
could not be saved, or by the state of an infrastructure that is gone while the key pair is not. -/
namespace Dismantle.Teardown

namespace Exchange

def saveFailed : Exchange → Bool
  | ⟨.save _, .error _⟩ => true
  | _ => false

/-- What is held of the state that destroying the infrastructure gave back; deleting the key pair
settles it. -/
def holding : Exchange → Option String → Option String
  | ⟨.terraformDestroy _, .ok tfState⟩, _ => some tfState
  | ⟨.deleteGcpKeyPair _, .ok _⟩, _ => none
  | _, held => held

end Exchange

def Steady (es : List Exchange) : Prop := ∀ x ∈ es, x.saveFailed = false

/-- The state that destroying the infrastructure gave back, where the key pair was not deleted after
that. -/
def held (es : List Exchange) : Option String := es.foldl (fun held x => x.holding held) none

/-- How the record that a run leaves in memory and the one saved last belong together. -/
structure Accounted {α : Type} (start : Environment) (es : List Exchange) (r : Except Fault α)
    (memory : Environment) : Prop where
  saved : Steady es → held es = none → memory = kept start es
  /-- Only a run on GCP that failed holds a state. -/
  held : Steady es → ∀ tfState, held es = some tfState →
    start.provider = .gcp ∧ (∃ f, r = .error f) ∧ memory = { kept start es with tfState }
  /-- A saving that fails is the last call, and only what its record was to say is not saved. -/
  unsaved : ¬Steady es → ∃ before x f, es = before ++ [x, ⟨.save memory, .error f⟩] ∧
    Steady (before ++ [x]) ∧ x.Tells ∧ memory = x.applied (kept start es)

theorem Steady.snoc {es : List Exchange} {x : Exchange} (h : Steady es)
    (hx : x.saveFailed = false) : Steady (es ++ [x]) :=
  List.forall_mem_append.mpr ⟨h, List.forall_mem_singleton.mpr hx⟩

theorem held_snoc (es : List Exchange) (x : Exchange) : held (es ++ [x]) = x.holding (held es) := by
  simp only [held, List.foldl_append, List.foldl_cons, List.foldl_nil]

namespace Exchange
variable {x : Exchange}

theorem Idle.saveFailed (h : x.Idle) : x.saveFailed = false := by
  unfold Exchange.saveFailed
  split
  · exact nomatch h.saving
  · rfl

theorem Idle.holding (h : x.Idle) (held : Option String) : x.holding held = held := by
  unfold Exchange.holding
  split
  · exact nomatch h.destroyed
  · exact nomatch h.finding
  · rfl

theorem Removal.saveFailed (h : x.Removal) : x.saveFailed = false := by
  cases h <;> rfl

theorem Removal.holding (h : x.Removal) (held : Option String) : x.holding held = held := by
  cases h <;> rfl

theorem Remnant.saveFailed (h : x.Remnant) : x.saveFailed = false := by
  cases h <;> rfl

theorem Remnant.holding (h : x.Remnant) (held : Option String) : x.holding held = held := by
  cases h <;> rfl

end Exchange

/-- The last exchange has changed the record, and nothing is held. -/
structure Awaits (before : List Exchange) (k e : Environment) : Prop where
  steady : Steady before
  held : held before = none
  told : ∃ earlier x, before = earlier ++ [x] ∧ x.Tells ∧ e = x.applied k

/-- What the history so far is like at a standing. -/
def Tallies (before : List Exchange) : Standing → Prop
  | .level _ => Steady before ∧ held before = none
  | .changed k e _ => Awaits before k e
  | .bare k tfState => k.provider = .gcp ∧ Steady before ∧ held before = some tfState
  | .closed k e => (Steady before ∧ held before = none ∧ k = e) ∨
      ∃ earlier f, before = earlier ++ [⟨.save e, .error f⟩] ∧ Awaits earlier k e

theorem Tallies.snoc {before : List Exchange} {a b : Standing} {x : Exchange}
    (h : Tallies before a) (move : Move a x b) : Tallies (before ++ [x]) b := by
  cases move with
  | idle idle _ =>
      obtain ⟨steady, none⟩ := h
      refine ⟨steady.snoc idle.saveFailed, ?_⟩
      rw [held_snoc, idle.holding, none]
  | removal removal _ =>
      obtain ⟨steady, none⟩ := h
      refine ⟨steady.snoc removal.saveFailed, ?_, before, x, rfl, removal.tells, rfl⟩
      rw [held_snoc, removal.holding, none]
  | remnant remnant _ =>
      obtain ⟨steady, none⟩ := h
      refine ⟨steady.snoc remnant.saveFailed, ?_, before, x, rfl, remnant.tells, rfl⟩
      rw [held_snoc, remnant.holding, none]
  | destroyed tfState gcp => exact ⟨gcp, h.1.snoc rfl, held_snoc _ _⟩
  | announced tfState text r =>
      obtain ⟨gcp, steady, some⟩ := h
      exact ⟨gcp, steady.snoc rfl, (held_snoc _ _).trans some⟩
  | keyPairLeft tfState f _ =>
      obtain ⟨gcp, steady, some⟩ := h
      exact ⟨gcp, steady.snoc rfl, (held_snoc _ _).trans some⟩
  | completion tfState gcp =>
      exact ⟨h.2.1.snoc rfl, held_snoc _ _, before, _, rfl, nofun, rfl⟩
  | saved k e => exact ⟨h.steady.snoc rfl, (held_snoc _ _).trans h.held⟩
  | savedLast k e => exact .inl ⟨h.steady.snoc rfl, (held_snoc _ _).trans h.held, rfl⟩
  | unsaved k e last f => exact .inr ⟨before, f, rfl, h⟩

theorem Tallies.accounted {α : Type} {start : Environment} {es : List Exchange} {z : Standing}
    {r : Except Fault α} (h : Tallies es z) (same : z.kept = kept start es)
    (provider : z.known.provider = start.provider) (ended : z.Ended false r) :
    Accounted start es r z.memory := by
  cases z with
  | level e =>
      obtain ⟨steady, none⟩ := h
      refine ⟨fun _ _ => same, fun _ t some => ?_, (absurd steady ·)⟩
      cases none.symm.trans some
  | changed k e last => exact ended.elim
  | bare k tfState =>
      obtain ⟨gcp, steady, some⟩ := h
      refine ⟨fun _ none => ?_, fun _ t held => ?_, (absurd steady ·)⟩
      · cases none.symm.trans some
      cases some.symm.trans held
      exact ⟨provider.symm.trans gcp, ended, congrArg (fun e => { e with tfState }) same⟩
  | closed k e =>
      rcases h with ⟨steady, none, rfl⟩ | ⟨earlier, f, rfl, awaits⟩
      · refine ⟨fun _ _ => same, fun _ t some => ?_, (absurd steady ·)⟩
        cases none.symm.trans some
      · -- The history has a failed saving, so only the last part says anything.
        obtain ⟨before, x, rfl, tells, applied⟩ := awaits.told
        have failed : ¬Steady (before ++ [x] ++ [⟨.save e, .error f⟩]) := fun steady =>
          nomatch steady _ (List.mem_append_right _ List.mem_cons_self)
        refine ⟨(absurd · failed), (absurd · failed), fun _ => ?_⟩
        refine ⟨before, x, f, List.append_assoc .., awaits.steady, tells, ?_⟩
        exact applied.trans (congrArg x.applied same)

/-- However a run ends, what it leaves in memory is accounted for by what it has saved. -/
theorem run_accounted {σ : Type} (h : Handler σ) (s : σ) (supported : List Provider)
    (arguments : List String) (p : Progress) :
    Accounted p.env ((run supported arguments p).history h s)
      ((run supported arguments p).perform h s).1.1
      ((run supported arguments p).perform h s).1.2.env := by
  obtain ⟨z, course, memory, ended⟩ := run_course h s supported arguments p
  have empty : Tallies [] (.level p.env) := ⟨List.forall_mem_nil _, rfl⟩
  rw [← memory]
  exact Tallies.accounted (course.preserves .snoc empty) course.kept course.provider ended

end Dismantle.Teardown
