import Dismantle.Proofs.Teardown.Chain
/-! What is left to do for later runs. They do not call again for what was deleted and saved, and
for what a failed deletion left they are given exactly that. -/
namespace Dismantle.Teardown

/-- The calls that may still be made once a finding was saved. -/
structure Finding.Admits (f : Finding) (c : Call) : Prop where
  director : f.director = some {} → ∀ e, c ≠ .deleteDirector e
  stack : f.stack = some "" → ∀ name, c ≠ .describeStack name ∧ c ≠ .deleteStack name
  certificate : f.certificate = some "" → ∀ name, c ≠ .deleteCertificate name
  keyPair : f.keyPair = some {} →
    ∀ key, c = .deleteAwsKeyPair key ∨ c = .deleteGcpKeyPair key → key = ""

/-- Nothing that a finding tells to be gone is on record. -/
structure Finding.Absent (f : Finding) (e : Environment) : Prop where
  director : f.director = some {} → e.director = {}
  stack : f.stack = some "" → e.stack.name = ""
  certificate : f.certificate = some "" → e.stack.certificateName = ""
  keyPair : f.keyPair = some {} → e.keyPair = {}

section InForce
variable {β : Type}

/-- The part of a record that is in force, and what is told of it and waits to be saved. Only a
saving that succeeds, and directly, puts in force what was told. -/
def Exchange.enforce (told : Exchange → Option β) (s : β × Option β) (x : Exchange) :
    β × Option β :=
  if x.saved.isSome then (s.2.getD s.1, none) else (s.1, told x)

def inForce (told : Exchange → Option β) (start : β) (es : List Exchange) : β :=
  (es.foldl (Exchange.enforce told) (start, none)).1

end InForce

def Exchange.directorLeft : Exchange → Option Director
  | ⟨.deleteDirector _, .error (.directorLeft left _)⟩ => some left.director
  | _ => none

theorem getD_eq_of {β : Type} {told : Option β} {start now : β} (same : start = now)
    (always : ∀ b, told = some b → b = now) : told.getD start = now := by
  cases told with
  | none => exact same
  | some b => exact always b rfl

namespace Finding
variable {f : Finding} {e : Environment}

theorem absent_applied (x : Exchange) (e : Environment) : x.finding.Absent (x.applied e) := by
  refine ⟨fun told => ?_, fun told => ?_, fun told => ?_, fun told => ?_⟩ <;>
    simp only [Exchange.applied, told, Option.getD_some]

theorem absent_lasting (f : Finding) : Lasting f.Absent := by
  intro e x absent due
  have erases := x.finding_erases
  refine ⟨fun told => ?_, fun told => ?_, fun told => ?_, fun told => ?_⟩
  · refine getD_eq_of (absent.director told) fun d found => ?_
    have recorded := (x.finding_fits due).director d found
    rw [absent.director told] at recorded
    cases recorded
  · exact getD_eq_of (absent.stack told) erases.stack
  · exact getD_eq_of (absent.certificate told) erases.certificate
  · exact getD_eq_of (absent.keyPair told) erases.keyPair

theorem Absent.admits (h : f.Absent e) {c : Call} (due : c.Due e) : f.Admits c := by
  refine ⟨?_, ?_, ?_, ?_⟩
  · rintro told d rfl
    have recorded := due.2
    rw [h.director told] at recorded
    cases recorded
  · intro told name
    constructor
    · rintro rfl
      exact due.2.2 (h.stack told)
    · rintro rfl
      exact due.2.2 (h.stack told)
  · rintro told name rfl
    exact due.2.2 (h.certificate told)
  · rintro told key (rfl | rfl)
    · rw [due.2, h.keyPair told]
      rfl
    · rw [due.2, h.keyPair told]
      rfl

end Finding

/-- What one exchange told and the next one saved stays absent to the end of the run. -/
theorem IsRun.absent {e : Environment} {before after : List Exchange} {x y : Exchange}
    (h : IsRun e (before ++ x :: y :: after)) (saved : y.saved.isSome) :
    x.finding.Absent (kept e (before ++ x :: y :: after)) ∧
      ∀ z ∈ after, x.finding.Admits z.call := by
  obtain ⟨z, course⟩ := h.course
  obtain ⟨a, _, rest⟩ := course.cut
  cases rest with
  | cons tells rest =>
    cases rest with
    | cons saves rest =>
      obtain ⟨known, keeps⟩ := saves.saves saved
      have absent := Finding.absent_applied x a.known
      rw [← tells.known] at absent
      have lasts := rest.lasting x.finding.absent_lasting (known ▸ absent) (keeps ▸ absent)
      refine ⟨course.kept ▸ lasts.1.2, fun z member => ?_⟩
      obtain ⟨e', absent', due⟩ := lasts.2 z member
      exact absent'.admits due

theorem Chain.admits {f : Finding} {e k : Environment} {runs : List (List Exchange)}
    (h : Chain e runs k) (absent : f.Absent e) : ∀ y ∈ runs.flatten, f.Admits y.call := by
  intro y member
  obtain ⟨es, run, member'⟩ := List.mem_flatten.mp member
  obtain ⟨e', absent', due⟩ := (h.lasting f.absent_lasting absent).2 es run y member'
  exact absent'.admits due

section Enforced
variable {β : Type} {told : Exchange → Option β} {part : Environment → β} {R : β → β → Prop}
  {start : β} {before : List Exchange} {a b : Standing} {x : Exchange}

/-- A part of the record that is in the relation `R` to what is in force stays so, whatever an
exchange tells. -/
def Tracks (told : Exchange → Option β) (part : Environment → β) (R : β → β → Prop) : Prop :=
  ∀ (e : Environment) (x : Exchange) (now : β), x.call.Due e → R now (part e) →
    R ((told x).getD now) (part (x.applied e))

/-- The record saved last has what is in force, and until a saving has failed, the record that is
known has what waits. -/
structure Enforced (told : Exchange → Option β) (part : Environment → β) (R : β → β → Prop)
    (start : β) (before : List Exchange) (a : Standing) : Prop where
  kept : R (inForce told start before) (part a.kept)
  known : (∀ k e, a ≠ .closed k e) →
    R ((before.foldl (Exchange.enforce told) (start, none)).2.getD (inForce told start before))
      (part a.known)

theorem enforce_snoc (told : Exchange → Option β) (start : β) (before : List Exchange)
    (x : Exchange) : (before ++ [x]).foldl (Exchange.enforce told) (start, none) =
      Exchange.enforce told (before.foldl (Exchange.enforce told) (start, none)) x := by
  simp only [List.foldl_append, List.foldl_cons, List.foldl_nil]

theorem enforce_unsaved (told : Exchange → Option β) (s : β × Option β) (unsaved : x.saved = none) :
    Exchange.enforce told s x = (s.1, told x) := by
  simp only [Exchange.enforce, unsaved, Option.isSome_none, Bool.false_eq_true, if_false]

theorem enforce_saved (told : Exchange → Option β) (s : β × Option β) (saved : x.saved.isSome) :
    Exchange.enforce told s x = (s.2.getD s.1, none) := by
  simp only [Exchange.enforce, saved, if_true]

theorem Enforced.unsaved (h : Enforced told part R start before a) (tracks : Tracks told part R)
    (move : Move a x b) (same : a.known = a.kept) (unsaved : x.saved = none) :
    Enforced told part R start (before ++ [x]) b := by
  have kept := h.kept
  constructor
  · rw [inForce, enforce_snoc, enforce_unsaved _ _ unsaved, move.kept, unsaved]
    exact kept
  · intro _
    rw [inForce, enforce_snoc, enforce_unsaved _ _ unsaved, move.known]
    rw [← same] at kept
    exact tracks _ _ _ move.due kept

theorem Enforced.saved (h : Enforced told part R start before a) (move : Move a x b)
    (saved : x.saved.isSome) : Enforced told part R start (before ++ [x]) b := by
  have goes : ∀ k e, a ≠ .closed k e := by
    rintro k e rfl
    cases move
  have ahead := h.known goes
  obtain ⟨known, kept⟩ := move.saves saved
  constructor
  · rw [inForce, enforce_snoc, enforce_saved _ _ saved, kept]
    exact ahead
  · intro _
    rw [inForce, enforce_snoc, enforce_saved _ _ saved, known]
    exact ahead

theorem Enforced.snoc (tracks : Tracks told part R) (h : Enforced told part R start before a)
    (move : Move a x b) : Enforced told part R start (before ++ [x]) b := by
  have unsaved := h.unsaved tracks move
  have saved := h.saved move
  cases move with
  | idle idle _ => exact unsaved rfl idle.saved
  | removal removal _ => exact unsaved rfl removal.saved
  | remnant remnant _ => exact unsaved rfl remnant.saved
  | destroyed => exact unsaved rfl rfl
  | announced => exact unsaved rfl rfl
  | keyPairLeft => exact unsaved rfl rfl
  | completion => exact unsaved rfl rfl
  | saved => exact saved rfl
  | savedLast => exact saved rfl
  | unsaved k e last f =>
      -- The record stays ahead of the store, and what was told waits no longer.
      refine ⟨?_, fun goes => absurd rfl (goes k e)⟩
      rw [inForce, enforce_snoc, enforce_unsaved _ _ rfl]
      exact h.kept

theorem Course.enforced {e : Environment} {es : List Exchange} {z : Standing}
    (h : Course (.level e) es z) (tracks : Tracks told part R) (first : R start (part e)) :
    Enforced told part R start es z := by
  have empty : Enforced told part R start [] (.level e) := ⟨first, fun _ => first⟩
  exact h.preserves (.snoc tracks) empty

theorem IsRun.enforced {e : Environment} {es : List Exchange} (h : IsRun e es)
    (tracks : Tracks told part R) (first : R start (part e)) :
    R (inForce told start es) (part (Teardown.kept e es)) := by
  obtain ⟨z, course⟩ := h.course
  have kept := (course.enforced tracks first).kept
  rwa [course.kept] at kept

/-- At each call but a saving, the part on record is in relation to what is in force. -/
theorem IsRun.given {e : Environment} {after : List Exchange} (h : IsRun e (before ++ x :: after))
    (tracks : Tracks told part R) (first : R start (part e)) (unsaving : x.call.saving = none) :
    ∃ e', x.call.Due e' ∧ R (inForce told start before) (part e') := by
  obtain ⟨z, course⟩ := h.course
  obtain ⟨a, earlier, rest⟩ := course.cut
  cases rest with
  | cons move _ =>
      refine ⟨a.known, move.due, ?_⟩
      rw [move.level unsaving]
      exact (earlier.enforced tracks first).kept

theorem Chain.enforced {e k : Environment} {runs : List (List Exchange)} (h : Chain e runs k)
    (tracks : Tracks told part R) (first : R start (part e)) :
    R (runs.foldl (inForce told) start) (part k) := by
  induction h generalizing start with
  | nil => exact first
  | cons isRun _ ih => exact ih (isRun.enforced tracks first)

end Enforced

theorem tracks_tfState : Tracks (·.finding.tfState) (·.tfState) Eq := by
  rintro e x now _ rfl
  rfl

theorem tracks_director : Tracks Exchange.directorLeft (·.director)
    (fun now d => d.isEmpty = false → now = d) := by
  intro e x now _ same
  rcases x.telling with none | removal | remnant | ⟨key, rfl⟩
  · have left : x.directorLeft = .none := by
      unfold Exchange.directorLeft
      split
      · exact nomatch none
      · rfl
    simpa only [left, Exchange.applied, none, Option.getD_none] using same
  · cases removal with
    | director =>
        -- No failed deletion told this, but with no director on record nothing is claimed.
        intro recorded
        cases recorded
    | _ => exact same
  · cases remnant with
    | director => exact fun _ => rfl
    | infrastructure => exact same
  · exact same

/-- Wherever a call stands in a chain of runs: if it was saved directly, nothing of what it told to
be gone is called for again, and a deletion is given what is in force. -/
theorem chain_resumes {start k : Environment} {earlier later : List (List Exchange)}
    {before after : List Exchange} {x : Exchange}
    (chain : Chain start (earlier ++ (before ++ x :: after) :: later) k) :
    (∀ e rest, after = ⟨.save e, .ok ()⟩ :: rest →
      ∀ y ∈ rest ++ later.flatten, x.finding.Admits y.call) ∧
    (∀ e, x.call = .deleteDirector e → e.director =
      inForce Exchange.directorLeft (earlier.foldl (inForce Exchange.directorLeft) start.director)
        before) ∧
    (∀ d, x.call = .terraformDestroy d → d.tfState =
      inForce (·.finding.tfState) (earlier.foldl (inForce (·.finding.tfState)) start.tfState)
        before) := by
  obtain ⟨e, first, rest⟩ := chain.cut
  cases rest with
  | cons isRun rest =>
      refine ⟨?_, ?_, ?_⟩
      · rintro s rest' rfl y member
        obtain ⟨absent, admits⟩ := isRun.absent rfl
        rcases List.mem_append.mp member with same | next
        · exact admits y same
        · exact rest.admits absent y next
      · intro d call
        obtain ⟨e', due, given⟩ := isRun.given tracks_director
          (first.enforced tracks_director fun _ => rfl) (by rw [call]; rfl)
        rw [call] at due
        rw [due.1]
        exact (given due.2).symm
      · intro d call
        obtain ⟨e', due, given⟩ := isRun.given tracks_tfState
          (first.enforced tracks_tfState rfl) (by rw [call]; rfl)
        rw [call] at due
        rw [due.2, given]
        rfl

/-- A director that a first run has deleted half is deleted by a second one. -/
theorem chain_resumes_halfway :
    (∀ y ∈ [(⟨.note "no AWS stack, skipping...", .ok ()⟩ : Exchange)],
      ({ director := some {} } : Finding).Admits y.call) ∧
    ({ name := "half" } : Director) = inForce Exchange.directorLeft
      ([rehearsed halfway { director := { name := "whole" } }].foldl
        (inForce Exchange.directorLeft) { name := "whole" })
      [⟨.validateRecord { director := { name := "half" } }, .ok ()⟩,
        ⟨.terraformVersion, .ok "0.8.7"⟩, ⟨.step "destroying bosh director", .ok ()⟩] := by
  have same : rehearsed {} { director := { name := "half" } } =
      [⟨.validateRecord { director := { name := "half" } }, .ok ()⟩,
        ⟨.terraformVersion, .ok "0.8.7"⟩, ⟨.step "destroying bosh director", .ok ()⟩] ++
      ⟨.deleteDirector { director := { name := "half" } }, .ok ()⟩ :: ⟨.save {}, .ok ()⟩ ::
      [⟨.note "no AWS stack, skipping...", .ok ()⟩] := rfl
  have isRun := isRun_rehearsed {} { director := { name := "half" } }
  rw [same] at isRun
  have chain : Chain { director := { name := "whole" } } ([_] ++ [_]) {} :=
    .cons (isRun_rehearsed halfway _) (.cons isRun (.nil _))
  obtain ⟨admits, director, _⟩ := chain_resumes chain
  exact ⟨admits _ _ rfl, director _ rfl⟩

end Dismantle.Teardown
