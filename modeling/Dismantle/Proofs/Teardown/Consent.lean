import Dismantle.Proofs.Teardown.Validation
import Dismantle.Proofs.Text.Case
import Dismantle.Proofs.Text.Lines
import Dismantle.Teardown.Rehearsal
/-! Consent: the answers that are a yes, and that a run which gets none ends before it touches
anything. -/
namespace Dismantle.Teardown
open Dismantle.Teardown.Task
open Text (isBlank trimEnds)

/-- The word `y` or `yes` in ASCII letters of either case, with nothing but blanks around it. -/
def IsYes (answer : String) : Prop :=
  ∃ front word back, answer.toList = front ++ word ++ back ∧
    (∀ c ∈ front, isBlank c = true) ∧ (∀ c ∈ back, isBlank c = true) ∧
    word.map Char.toLower ∈ [['y'], ['y', 'e', 's']]

/-- How the question for consent is settled. Whoever is asked and does not say yes is told of the
exit. -/
inductive Settled (flags : Flags) (e : Environment) : List Exchange → Except Fault Bool → Prop where
  | given : flags.noConfirm = true → Settled flags e [] (.ok true)
  | unanswered (f : Fault) : flags.noConfirm = false →
      Settled flags e [⟨.prompt (question e.envId), .error f⟩] (.error f)
  | agreed (answer : String) : flags.noConfirm = false → IsYes answer →
      Settled flags e [⟨.prompt (question e.envId), .ok answer⟩] (.ok true)
  | declined (answer : String) (told : Except Fault Unit) : flags.noConfirm = false →
      ¬IsYes answer →
      Settled flags e [⟨.prompt (question e.envId), .ok answer⟩, ⟨.step "exiting", told⟩]
        (told.map fun _ => false)

/-- How a run stands to the user's consent. -/
structure Consented (arguments : List String) (start : Progress) (es : List Exchange)
    (r : Except Fault Outcome) (now : Progress) : Prop where
  /-- Where the user is asked and does not say yes, the exit is announced and the run is over. -/
  declined : ∀ text (answer : String), ⟨.prompt text, .ok answer⟩ ∈ es → ¬IsYes answer →
    ∃ told : Except Fault Unit, r.map (·.status) = told.map (fun _ => .cancelled) ∧ now = start ∧
      es = [⟨.validateRecord start.env, .ok ()⟩,
        ⟨.prompt (question start.env.envId), .ok answer⟩, ⟨.step "exiting", told⟩]
  /-- Without the flag, and without a yes, nothing is touched. -/
  spared : (∀ flags, Flags.parse arguments = .ok flags → flags.noConfirm = false) →
    (∀ text (answer : String), ⟨.prompt text, .ok answer⟩ ∈ es → ¬IsYes answer) →
    Untouching es ∧ now = start

theorem toLower_of_isBlank {c : Char} (blank : isBlank c = true) : c.toLower = c := by
  refine Text.toLower_of_outside ?_
  simp only [isBlank, Text.isSpace, Bool.decide_or, Bool.or_eq_true, decide_eq_true_eq,
    Bool.decide_and, Bool.and_eq_true] at blank
  omega

theorem solid_of_yes {word : List Char} (yes : word.map Char.toLower ∈ [['y'], ['y', 'e', 's']]) :
    ∀ c ∈ word, isBlank c = false := by
  intro c member
  have letters : ∀ w ∈ [['y'], ['y', 'e', 's']], w.all (fun d => !isBlank d) = true := by decide
  have solid := List.all_eq_true.mp (letters _ yes) _ (List.mem_map_of_mem member)
  rw [Bool.eq_false_iff]
  intro blank
  rw [toLower_of_isBlank blank, blank] at solid
  cases solid

theorem isConsent_eq_true {answer : String} : isConsent answer = true ↔
    (trimEnds isBlank answer.toList).map Char.toLower ∈ [['y'], ['y', 'e', 's']] := by
  rw [isConsent, Bool.or_eq_true, beq_iff_eq, beq_iff_eq, Text.lower_eq_iff (by decide),
    Text.lower_eq_iff (by decide), Text.strip, String.toList_ofList, List.mem_pair]
  exact or_comm

theorem isConsent_iff {answer : String} : isConsent answer = true ↔ IsYes answer := by
  rw [isConsent_eq_true]
  constructor
  · intro yes
    obtain ⟨front, back, whole, blank, blank'⟩ := Text.exists_trimEnds isBlank answer.toList
    exact ⟨front, _, back, whole, blank, blank', yes⟩
  · rintro ⟨front, word, back, whole, blank, blank', yes⟩
    have solid := solid_of_yes yes
    have trimmed : Text.IsTrimmed isBlank word :=
      ⟨fun c head => solid c (List.mem_of_mem_head? head),
        fun c last => solid c (List.mem_of_mem_getLast? last)⟩
    have some_ : word ≠ [] := by
      rintro rfl
      simp at yes
    have none : back.rdropWhile isBlank = [] := List.rdropWhile_eq_nil_iff.mpr blank'
    rw [whole, Text.trimEnds_append trimmed some_ blank, none, List.append_nil]
    exact yes

def Call.asks : Call → Bool
  | .prompt _ => true
  | _ => false

def Unasking (es : List Exchange) : Prop := ∀ x ∈ es, x.call.asks = false

/-- The user is asked right after the record was found to be valid, and never again. -/
def AsksOnce (start : Environment) (es : List Exchange) : Prop :=
  ∀ before x after, es = before ++ x :: after → x.call.asks = true →
    before = [⟨.validateRecord start, .ok ()⟩]

section
variable {supported : List Provider} {arguments : List String} {start e : Environment}
  {flags : Flags} {es es' rest : List Exchange}

theorem Call.unasking_of_unpreparing {c : Call} (h : c.prepares = false) : c.asks = false := by
  cases c with
  | prompt => cases h
  | _ => rfl

theorem Unasking.asksOnce (h : Unasking es) : AsksOnce start es := by
  rintro before x after rfl asks
  rw [h x (List.mem_append_right before List.mem_cons_self)] at asks
  cases asks

theorem asksOnce_of_tail (h : Unasking es.tail) :
    AsksOnce start (⟨.validateRecord start, .ok ()⟩ :: es) := by
  intro before x after split asks
  rcases before with _ | ⟨first, _ | ⟨second, before⟩⟩
  · cases split
    cases asks
  · cases split
    rfl
  · obtain ⟨rfl, rfl⟩ := List.cons.inj split
    rw [h x (List.mem_append_right before List.mem_cons_self)] at asks
    cases asks

theorem Skipping.unasking {r : Except Fault Bool} (h : Skipping flags e es r) : Unasking es := by
  cases h with
  | kept => exact List.forall_mem_nil _
  | skipped => exact List.forall_mem_singleton.mpr rfl

theorem Skipping.silent {r : Except Fault Bool} (h : Skipping flags e es r)
    (goesOn : r = .ok false) : es = [] := by
  cases h with
  | kept => rfl
  | skipped told => cases told <;> cases goesOn

theorem Decision.unasking_tail {r : Except Fault Bool} (h : Decision flags e es r)
    (rest : Unasking es') : Unasking (es ++ es').tail := by
  cases h with
  | agreed consent =>
      cases consent with
      | given => exact fun x member => rest x (List.mem_of_mem_tail member)
      | asked => exact rest
  | unanswered => exact rest
  | declined => exact List.forall_mem_cons.mpr ⟨rfl, rest⟩

theorem runGuarded_asksOnce (supported : List Provider) (flags : Flags) (p : Progress) :
    (runGuarded supported flags p.env).Ensures p fun es _ _ => AsksOnce p.env es := by
  refine (ensures_bind _ _).mpr ((skipMissing_checks flags p.env p).ensures.mono ?_)
  rintro es (g | skipped) p' ⟨-, rfl, skipping⟩
  · exact skipping.unasking.asksOnce
  dsimp only
  split
  case isTrue =>
      refine (ensures_pure _).mpr ?_
      rw [List.append_nil]
      exact skipping.unasking.asksOnce
  case isFalse goesOn =>
      rw [Bool.not_eq_true] at goesOn
      obtain rfl := skipping.silent (congrArg _ goesOn)
      refine (ensures_bind _ _).mpr ((ensures_tell _).mpr fun answer => ?_)
      cases answer with
      | error g => exact Unasking.asksOnce (List.forall_mem_singleton.mpr rfl)
      | ok =>
          refine (ensures_bind _ _).mpr ((confirm_checks flags p'.env p').ensures.mono ?_)
          rintro es (g | agreed) p'' ⟨-, rfl, decision⟩
          · have tail := decision.unasking_tail (List.forall_mem_nil _)
            rw [List.append_nil] at tail
            exact asksOnce_of_tail tail
          -- Whatever the answer is, what follows asks nobody.
          refine ((?behind : Task.Only (·.asks = false) _).ensures p'').mono fun es' r p none => ?_
          case behind =>
              split
              case isTrue => exact .pure _
              case isFalse =>
                  exact behind_consent supported rfl (fun _ => rfl) (fun _ => rfl)
                    fun c => c.unasking_of_unpreparing
          exact asksOnce_of_tail (decision.unasking_tail none)

theorem run_asksOnce (supported : List Provider) (arguments : List String) (p : Progress) :
    (run supported arguments).Ensures p fun es _ _ => AsksOnce p.env es := by
  refine run_ensures_of_guarded (Q := fun es _ _ => AsksOnce p.env es) (fun _ _ => ?_)
    fun flags tags _ => runGuarded_asksOnce supported flags { p with tags }
  exact Unasking.asksOnce (List.forall_mem_nil _)

theorem Decision.settled {r : Except Fault Bool} (h : Decision flags e es r) :
    Settled flags e es r := by
  cases h with
  | agreed consent =>
      cases consent with
      | given on => exact .given on
      | asked answer off agreed => exact .agreed answer off (isConsent_iff.mp agreed)
  | unanswered f off => exact .unanswered f off
  | declined answer told off declined =>
      refine .declined answer told off fun yes => ?_
      rw [isConsent_iff.mpr yes] at declined
      cases declined

theorem Agreed.isYes {found : Except Fault String} {text answer : String} (h : Agreed arguments e es)
    (split : es ++ ⟨.terraformVersion, found⟩ :: rest =
      ⟨.validateRecord e, .ok ()⟩ :: ⟨.prompt text, .ok answer⟩ :: es') : IsYes answer := by
  cases h with
  | intro considered consent =>
      cases consent with
      | given => cases split
      | asked answer off agreed =>
          cases split
          exact isConsent_iff.mp agreed

theorem Equipped.agreed (h : Equipped arguments e es) :
    ∃ agreed found, Agreed arguments e agreed ∧ es = agreed ++ [⟨.terraformVersion, .ok found⟩] := by
  cases h with
  | intro agreed => exact ⟨_, _, agreed, rfl⟩

theorem Equipped.isYes {text answer : String} (h : Equipped arguments e es)
    (split : es ++ rest = ⟨.validateRecord e, .ok ()⟩ :: ⟨.prompt text, .ok answer⟩ :: es') :
    IsYes answer := by
  obtain ⟨agreed, found, consents, rfl⟩ := h.agreed
  rw [List.append_assoc] at split
  exact consents.isYes split

theorem Halted.cancelled {r : Except Fault Status} {text answer : String}
    (h : Halted supported arguments e es r) (no : ¬IsYes answer)
    (split : es = ⟨.validateRecord e, .ok ()⟩ :: ⟨.prompt text, .ok answer⟩ :: rest) :
    ∃ told : Except Fault Unit, r = told.map (fun _ => .cancelled) ∧
      es = [⟨.validateRecord e, .ok ()⟩, ⟨.prompt (question e.envId), .ok answer⟩,
        ⟨.step "exiting", told⟩] := by
  cases h with
  | flags => cases split
  | skipped => cases split
  | invalid => cases split
  | unanswered => cases split
  | declined answer told =>
      cases split
      exact ⟨told, rfl, rfl⟩
  | unequipped f agreed => exact absurd (agreed.isYes split) no
  | outdated agreed => exact absurd (agreed.isYes split) no
  | unauthorized f equipped => exact absurd (equipped.isYes split) no
  | unsupported equipped => exact absurd (equipped.isYes split) no

theorem Passed.consent (h : Passed supported arguments e es) :
    (∃ flags, Flags.parse arguments = .ok flags ∧ flags.noConfirm = true) ∨
      ∃ answer : String, ⟨.prompt (question e.envId), .ok answer⟩ ∈ es ∧ IsYes answer := by
  cases h with
  | intro equipped =>
      obtain ⟨agreed, found, ⟨considered, consent⟩, rfl⟩ := equipped.agreed
      cases consent with
      | given on => exact .inl ⟨_, considered.parsed, on⟩
      | asked answer off yes => exact .inr ⟨answer, by simp, isConsent_iff.mp yes⟩

theorem Guarded.consented {start now : Progress} {r : Except Fault Outcome}
    (h : Guarded supported arguments start es r now) (once : AsksOnce start.env es) :
    Consented arguments start es r now where
  declined text answer asked no := by
    obtain ⟨before, after, split⟩ := List.append_of_mem asked
    obtain rfl := once before _ after split rfl
    have unpassed : ¬∃ passed rest, es = passed ++ rest ∧
        Passed supported arguments start.env passed := by
      rintro ⟨_, rest, same, ⟨equipped, -⟩⟩
      rw [List.append_assoc] at same
      exact no (equipped.isYes (same.symm.trans split))
    obtain ⟨-, same, halted⟩ := h.halted (.inr unpassed)
    obtain ⟨told, cancelled, calls⟩ := halted.cancelled no split
    exact ⟨told, cancelled, same, calls⟩
  spared unforced unheard := by
    have unpassed : ¬∃ passed rest, es = passed ++ rest ∧
        Passed supported arguments start.env passed := by
      rintro ⟨passed, rest, rfl, through⟩
      rcases through.consent with ⟨flags, parsed, on⟩ | ⟨answer, asked, yes⟩
      · rw [unforced flags parsed] at on
        cases on
      · exact unheard _ answer (List.mem_append_left rest asked) yes
    obtain ⟨untouching, same, -⟩ := h.halted (.inr unpassed)
    exact ⟨untouching, same⟩

end

/-- Only a yes is consent. Whoever answers its calls, a run without the flag goes on after a yes, and
only then; to every other answer it announces the exit and ends, and has touched nothing. -/
theorem run_consented {σ : Type} (h : Handler σ) (s : σ) (supported : List Provider)
    (arguments : List String) (p : Progress) :
    (∀ answer, isConsent answer = true ↔ IsYes answer) ∧
    (∀ flags e, Settled flags e ((confirm flags e p).history h s)
      ((confirm flags e p).perform h s).1.1) ∧
    Consented arguments p ((run supported arguments p).history h s)
      ((run supported arguments p).perform h s).1.1 ((run supported arguments p).perform h s).1.2 := by
  refine ⟨fun _ => isConsent_iff, fun flags e => ?_, ?_⟩
  · obtain ⟨-, -, decision⟩ := (confirm_checks flags e p).ensures.performed h s
    exact decision.settled
  · exact ((run_ensures supported arguments p).performed h s).consented
      ((run_asksOnce supported arguments p).performed h s)

/-- A long s is no s. -/
theorem run_consented_longS :
    ¬IsYes "yeſ" ∧ IsYes "\u2003YeS\x1f" ∧ ∃ told : Except Fault Unit,
      (run Provider.all [] { env := { envId := "lake" } }).history
          (Stage.handler { answer := "yeſ" }) { kept := {} } =
        [⟨.validateRecord { envId := "lake" }, .ok ()⟩, ⟨.prompt (question "lake"), .ok "yeſ"⟩,
          ⟨.step "exiting", told⟩] := by
  obtain ⟨consents, -, consented⟩ := run_consented (Stage.handler { answer := "yeſ" }) { kept := {} }
    Provider.all [] { env := { envId := "lake" } }
  have no : ¬IsYes "yeſ" := by
    rw [← consents]
    decide +kernel
  have yes : IsYes "\u2003YeS\x1f" := (consents _).mp (by decide +kernel)
  obtain ⟨told, -, -, calls⟩ := consented.declined (question "lake") "yeſ"
    (List.mem_cons_of_mem _ List.mem_cons_self) no
  exact ⟨no, yes, told, calls⟩

end Dismantle.Teardown
