import Dismantle.Proofs.Teardown.Exchange
/-! The courses that a run can take, as far as the record goes: how the record in memory stands to
the one saved last, and how each call that ends moves this. -/
namespace Dismantle.Teardown

/-- How the record in memory stands to the record saved last. -/
inductive Standing where
  /-- They are the same. -/
  | level (e : Environment)
  /-- An exchange has changed `e` from what was saved, `k`; it is to be saved next. If that is the
  last thing the run does, `last` is set. -/
  | changed (k e : Environment) (last : Bool)
  /-- The infrastructure is gone, and only the memory has the state that was given back. -/
  | bare (k : Environment) (tfState : String)
  /-- Nothing follows. -/
  | closed (k e : Environment)

namespace Standing

def kept : Standing → Environment
  | .level e => e
  | .changed k _ _ | .bare k _ | .closed k _ => k

/-- The record as far as exchanges have told. -/
def known : Standing → Environment
  | .level e | .changed _ e _ | .closed _ e => e
  | .bare k _ => k

def memory : Standing → Environment
  | .level e | .changed _ e _ | .closed _ e => e
  | .bare k tfState => { k with tfState }

/-- Whether a task with this result can leave it there; `more` is set for a task that others are to
follow. -/
def Ended {α : Type} (more : Bool) (r : Except Fault α) : Standing → Prop
  | .level _ => True
  | .changed _ _ _ => False
  | .bare _ _ => ∃ f, r = .error f
  | .closed _ _ => more = true → ∃ f, r = .error f

end Standing

/-- One exchange. While a record is to be saved nothing but that is called, and once the
infrastructure is gone, only a step is announced or the key pair deleted. -/
inductive Move : Standing → Exchange → Standing → Prop where
  | idle {e : Environment} {x : Exchange} : x.Idle → x.call.Due e → Move (.level e) x (.level e)
  | removal {e : Environment} {x : Exchange} : x.Removal → x.call.Due e →
      Move (.level e) x (.changed e (x.applied e) false)
  | remnant {e : Environment} {x : Exchange} : x.Remnant → x.call.Due e →
      Move (.level e) x (.changed e (x.applied e) true)
  | destroyed {e : Environment} (tfState : String) : e.provider = .gcp →
      Move (.level e) ⟨.terraformDestroy (destruction e), .ok tfState⟩ (.bare e tfState)
  | announced {e : Environment} (tfState text : String) (r : Except Fault Unit) :
      Move (.bare e tfState) ⟨.step text, r⟩ (.bare e tfState)
  | keyPairLeft {e : Environment} (tfState : String) (f : Fault) : e.provider = .gcp →
      Move (.bare e tfState) ⟨.deleteGcpKeyPair e.keyPair.publicKey, .error f⟩ (.bare e tfState)
  | completion {e : Environment} (tfState : String) : e.provider = .gcp →
      Move (.bare e tfState) ⟨.deleteGcpKeyPair e.keyPair.publicKey, .ok ()⟩
        (.changed e { e with keyPair := {}, tfState := "" } true)
  | saved (k e : Environment) : Move (.changed k e false) ⟨.save e, .ok ()⟩ (.level e)
  | savedLast (k e : Environment) : Move (.changed k e true) ⟨.save e, .ok ()⟩ (.closed e e)
  | unsaved (k e : Environment) (last : Bool) (f : Fault) :
      Move (.changed k e last) ⟨.save e, .error f⟩ (.closed k e)

/-- A history that leads from one standing to another. -/
inductive Course : Standing → List Exchange → Standing → Prop where
  | nil (a : Standing) : Course a [] a
  | cons {a b c : Standing} {x : Exchange} {es : List Exchange} :
      Move a x b → Course b es c → Course a (x :: es) c

namespace Move
variable {a b : Standing} {x : Exchange}

theorem due (h : Move a x b) : x.call.Due a.known := by
  cases h with
  | idle _ due => exact due
  | removal _ due => exact due
  | remnant _ due => exact due
  | destroyed _ gcp => exact ⟨gcp, rfl⟩
  | announced => trivial
  | keyPairLeft _ _ gcp => exact ⟨gcp, rfl⟩
  | completion _ gcp => exact ⟨gcp, rfl⟩
  | saved => rfl
  | savedLast => rfl
  | unsaved => rfl

theorem known (h : Move a x b) : b.known = x.applied a.known := by
  cases h with
  | idle idle _ => exact (idle.applied _).symm
  | _ => rfl

theorem kept (h : Move a x b) : b.kept = x.saved.getD a.kept := by
  cases h with
  | idle idle _ => simp only [Standing.kept, idle.saved, Option.getD_none]
  | removal removal _ => simp only [Standing.kept, removal.saved, Option.getD_none]
  | remnant remnant _ => simp only [Standing.kept, remnant.saved, Option.getD_none]
  | _ => rfl

theorem saves (h : Move a x b) (saved : x.saved.isSome) :
    b.known = a.known ∧ b.kept = a.known := by
  cases h with
  | idle idle _ => rw [idle.saved] at saved; cases saved
  | removal removal _ => rw [removal.saved] at saved; cases saved
  | remnant remnant _ => rw [remnant.saved] at saved; cases saved
  | saved => exact ⟨rfl, rfl⟩
  | savedLast => exact ⟨rfl, rfl⟩
  | _ => cases saved

/-- A call other than a saving is made only while nothing waits to be saved. -/
theorem level (h : Move a x b)
    (unsaving : x.call.saving = none) : a.known = a.kept := by
  cases h with
  | saved => cases unsaving
  | savedLast => cases unsaving
  | unsaved => cases unsaving
  | _ => rfl

end Move

namespace Course
variable {a b c : Standing} {es es' : List Exchange}

theorem append (h : Course a es b) (h' : Course b es' c) : Course a (es ++ es') c := by
  induction h with
  | nil => exact h'
  | cons move _ ih => exact .cons move (ih h')

theorem cut (h : Course a (es ++ es') c) : ∃ b, Course a es b ∧ Course b es' c := by
  induction es generalizing a with
  | nil => exact ⟨a, .nil a, h⟩
  | cons x es ih =>
      cases h with
      | cons move rest =>
          obtain ⟨b, first, last⟩ := ih rest
          exact ⟨b, .cons move first, last⟩

/-- What each move preserves, given the history so far, a course preserves. -/
theorem preserves {I : List Exchange → Standing → Prop}
    (step : ∀ {before a x b}, I before a → Move a x b → I (before ++ [x]) b)
    {before : List Exchange} (h : Course a es b) (start : I before a) : I (before ++ es) b := by
  induction h generalizing before with
  | nil => simpa only [List.append_nil] using start
  | cons move _ ih =>
      simpa only [List.append_assoc, List.singleton_append] using ih (step start move)

theorem kept (h : Course a es b) : b.kept = Teardown.kept a.kept es := by
  induction h with
  | nil => rfl
  | cons move _ ih => rw [ih, move.kept]; rfl

end Course
end Dismantle.Teardown
