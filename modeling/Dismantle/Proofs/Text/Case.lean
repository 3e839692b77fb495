import Dismantle.Text.Case
import Mathlib.Tactic.SplitIfs
/-! Small forms in ASCII. Above ASCII only the dotted capital I and the Kelvin sign have an ASCII
letter in their small form; so a text that is spelled in small forms like a word without i and k is
that word, in ASCII letters of either case. -/
namespace Dismantle.Text

/-- Only the small form of the Kelvin sign lies in ASCII. -/
theorem shifted_foreign : ∀ r ∈ shifted, 128 ≤ r.2.2 ∨ r = (0x212a, 0x212a, 0x6b) := by
  decide +kernel

theorem shifted_valid : ∀ r ∈ shifted, r.2.2 + (r.2.1 - r.1) < 0xd800 ∨
    (0xe000 ≤ r.2.2 ∧ r.2.2 + (r.2.1 - r.1) < 0x110000) := by
  decide +kernel

theorem alternating_valid : ∀ r ∈ alternating, r.2 + 1 < 0xd800 := by
  decide +kernel

theorem smallPoint_foreign {n : Nat} (foreign : 128 ≤ n) :
    128 ≤ smallPoint n ∨ smallPoint n = 0x6b := by
  unfold smallPoint
  split
  case isTrue => exact .inl (by omega)
  case isFalse =>
      split
      case h_1 r found =>
          have inside : r.1 ≤ n ∧ n ≤ r.2.1 := by simpa using List.find?_some found
          rcases shifted_foreign r (List.mem_of_find?_eq_some found) with far | rfl
          · exact .inl (by omega)
          · have single : n = 0x212a := Nat.le_antisymm inside.2 inside.1
            exact .inr (by rw [single]; rfl)
      case h_2 => exact .inl foreign

theorem smallPoint_valid (c : Char) : (smallPoint c.toNat).isValidChar := by
  unfold smallPoint
  split
  case isTrue alternates =>
      obtain ⟨r, member, inside⟩ := List.any_eq_true.mp alternates
      have inside : r.1 ≤ c.toNat ∧ c.toNat ≤ r.2 ∧ (c.toNat - r.1) % 2 = 0 := by simpa using inside
      have bound := alternating_valid r member
      exact .inl (by omega)
  case isFalse =>
      split
      case h_1 r found =>
          have inside : r.1 ≤ c.toNat ∧ c.toNat ≤ r.2.1 := by simpa using List.find?_some found
          rcases shifted_valid r (List.mem_of_find?_eq_some found) with low | high
          · exact .inl (by omega)
          · exact .inr (by omega)
      case h_2 => exact c.valid

theorem toNat_smallPoint (c : Char) :
    (Char.ofNat (smallPoint c.toNat)).toNat = smallPoint c.toNat := by
  rw [Char.ofNat, dif_pos (smallPoint_valid c)]
  rfl

section
variable {before behind : List Char} {c : Char}

theorem smallForm_of_ascii (ascii : c.toNat < 128) : smallForm before c behind = [c.toLower] :=
  if_pos ascii

theorem smallForm_ne_nil : smallForm before c behind ≠ [] := by
  unfold smallForm
  split_ifs <;> exact List.cons_ne_nil _ _

/-- What a character above ASCII has of ASCII in its small form, whatever stands around it. -/
theorem smallForm_foreign (foreign : 128 ≤ c.toNat) :
    ∀ d ∈ smallForm before c behind, d.toNat < 128 → d = 'i' ∨ d = 'k' := by
  unfold smallForm
  split_ifs with ascii dotted final
  · omega
  · intro d member _
    rcases List.mem_cons.mp member with rfl | mark
    · exact .inl rfl
    · cases List.mem_singleton.mp mark
      contradiction
  · intro d member _
    cases List.mem_singleton.mp member
    contradiction
  · intro d member low
    rw [List.mem_singleton.mp member] at low ⊢
    rw [toNat_smallPoint] at low
    rcases smallPoint_foreign foreign with far | kelvin
    · omega
    · exact .inr (by rw [kelvin])

end

/-- An ASCII character that no character above ASCII has in its small form. -/
def IsPlain (d : Char) : Prop := d.toNat < 128 ∧ d ≠ 'i' ∧ d ≠ 'k'

instance : DecidablePred IsPlain :=
  fun d => inferInstanceAs (Decidable (d.toNat < 128 ∧ d ≠ 'i' ∧ d ≠ 'k'))

theorem toLower_of_outside {c : Char} (outside : c.toNat < 65 ∨ 90 < c.toNat) : c.toLower = c := by
  refine dif_neg fun capital => ?_
  have first : 65 ≤ c.toNat := UInt32.le_iff_toNat_le.mp capital.1
  have last : c.toNat ≤ 90 := UInt32.le_iff_toNat_le.mp capital.2
  omega

/-- Only ASCII letters are small forms of a plain word's letters. -/
theorem smallForms_eq_iff {word : List Char} (plain : ∀ d ∈ word, IsPlain d)
    (before cs : List Char) : smallForms before cs = word ↔ cs.map Char.toLower = word := by
  induction cs generalizing before word with
  | nil => rfl
  | cons c cs ih =>
      rw [smallForms, List.map_cons]
      by_cases ascii : c.toNat < 128
      case pos =>
        rw [smallForm_of_ascii ascii, List.singleton_append]
        cases word with
        | nil => exact iff_of_false (List.cons_ne_nil _ _) (List.cons_ne_nil _ _)
        | cons d word => rw [List.cons.injEq, List.cons.injEq, ih (List.forall_mem_cons.mp plain).2]
      case neg =>
        have foreign : 128 ≤ c.toNat := Nat.not_lt.mp ascii
        -- Neither side can begin a plain word: a small form of `c` starts with something else.
        have nonempty : ∃ d ds, smallForm before c cs = d :: ds :=
          List.exists_cons_of_ne_nil smallForm_ne_nil
        obtain ⟨d, ds, form⟩ := nonempty
        refine iff_of_false ?_ ?_
        · rintro rfl
          rw [form] at plain
          obtain ⟨low, notI, notK⟩ := plain d List.mem_cons_self
          have head : d ∈ smallForm before c cs := by rw [form]; exact List.mem_cons_self
          rcases smallForm_foreign foreign d head low with same | same
          · exact notI same
          · exact notK same
        · rintro rfl
          have low := (plain _ List.mem_cons_self).1
          rw [toLower_of_outside (by omega)] at low
          exact ascii low

theorem lower_eq_iff {s word : String} (plain : word.toList.all (fun d => decide (IsPlain d)) = true) :
    lower s = word ↔ s.toList.map Char.toLower = word.toList := by
  have each : ∀ d ∈ word.toList, IsPlain d :=
    fun d member => of_decide_eq_true (List.all_eq_true.mp plain d member)
  rw [lower, ← smallForms_eq_iff each []]
  constructor
  · rintro rfl
    rw [String.toList_ofList]
  · intro same
    rw [same, String.ofList_toList]

end Dismantle.Text
